import Mathlib
import Quinte.Packet.Readback

/-! # Identity tokens in the R2 packet

    The tokens are replaced one after another, and what takes their place are
    the markers `[route]`, `[party]`, `[perspective]` and `[model]`.  A marker
    is scrubbed by the tokens that come later, and by none that came before:
    a token inside a marker that has settled stays in the packet.

    * `r2_packet_pseudonymous_iff`: no packet of the policy carries a token iff
      none is inside a settled marker or a participant label;
    * `r2_packet_not_pseudonymous`: a route that is named `route`.
-/

namespace Quinte

open Substitution

/-! ### What a packet must not carry -/

/-- The strings of the JSON text of a residual. -/
def Residual.strings (residual : Residual) : List String :=
  [residual.id, residual.severity.spelling, residual.residualType, residual.source,
    residual.finding, residual.disposition.spelling, residual.requiredClosure,
    residual.closureState.spelling, residual.scope]
    ++ residual.evidenceRefs ++ residual.closureEvidence

def Claim.strings (claim : Claim) : List String :=
  [claim.id, claim.statement, claim.category] ++ claim.evidenceRefs ++ claim.warrant.toList
    ++ claim.qualifier.toList

def LaneOutput.strings (output : LaneOutput) : List String :=
  [output.laneOutputVersion, output.taskRestatement, output.verdict]
    ++ output.claims.flatMap Claim.strings ++ output.residuals.flatMap Residual.strings
    ++ output.uncertainties ++ output.limitations

/-- No string in the participants contains an identity token of the policy. -/
def Pseudonymous (policy : Policy) (packet : R2Packet) : Prop :=
  ∀ participant ∈ packet.participants, ∀ text ∈ participant.1 :: participant.2.strings,
    ∀ token ∈ identityTokens policy, ¬ ContainsToken token text

/-- The marker of each token that contains no earlier one, as the later tokens
    leave it. -/
def settledMarkers (policy : Policy) : List String :=
  (firing [] (identityRules policy)).map fun (r, later) => String.ofList (applyAll later r.marker)

/-- No token is inside a settled marker or a label. -/
def MarkersAreNeutral (policy : Policy) : Prop :=
  ∀ text ∈ settledMarkers policy ++ participantLabels, ∀ token ∈ identityTokens policy,
    ¬ ContainsToken token text

instance (policy : Policy) : Decidable (MarkersAreNeutral policy) :=
  inferInstanceAs (Decidable (∀ text ∈ _, _))

/-- No perspective overlaps a marker in part: it neither begins nor ends inside
    one, and none is inside it. -/
def PerspectivesApart (policy : Policy) : Prop :=
  ∀ route ∈ policy.routes, 3 ≤ route.perspective.length →
    ∀ x ∈ firing [] (identityRules policy), ∀ form ∈ formsUnder x.2 x.1.marker,
      (tokenRule route.perspective "").Apart form

instance (policy : Policy) : Decidable (PerspectivesApart policy) :=
  inferInstanceAs (Decidable (∀ route ∈ _, _))

/-! ### The rules of a policy -/

theorem identityRules_compat {policy : Policy} : ∀ e ∈ identityRules policy,
    ∀ r ∈ identityRules policy, ∀ text, r.Occurs text → e.Occurs r.pattern → e.Occurs text := by
  intro e he r hr text hocc hin
  obtain ⟨s, -, rfl⟩ := List.mem_map.mp he
  obtain ⟨t, -, rfl⟩ := List.mem_map.mp hr
  unfold Rule.Occurs tokenRule at *
  cases hs : isAscii s.1 with
  | true =>
    -- up to case, both searches agree
    simp only [hs, if_true] at hin ⊢
    cases ht : isAscii t.1 with
    | true =>
      simp only [ht, if_true] at hocc
      exact hin.trans hocc
    | false =>
      simp only [ht, Bool.false_eq_true, if_false, List.map_id] at hocc
      exact hin.trans (hocc.map Char.toLower)
  | false =>
    -- a token that is not ASCII is inside no ASCII token
    simp only [hs, Bool.false_eq_true, if_false, List.map_id] at hin ⊢
    have ht : isAscii t.1 = false := by
      by_contra hascii
      rw [Bool.not_eq_false] at hascii
      have hall : isAscii s.1 = true :=
        List.all_eq_true.mpr fun c hc => List.all_eq_true.mp hascii c (hin.subset hc)
      rw [hs] at hall
      exact nomatch hall
    simp only [ht, Bool.false_eq_true, if_false, List.map_id] at hocc
    exact hin.trans hocc

theorem eq_of_toLower_eq {c d : Char} (h : c.toLower = d) (hd : d.isLower = false) : c = d := by
  unfold Char.toLower at h
  split at h
  case isFalse => exact h
  case isTrue hrange =>
    -- what a letter is folded to is a lower case letter
    exfalso
    have hval := congrArg UInt32.toNat (congrArg Char.val h)
    have hlow : 65 ≤ c.val.toNat := hrange.1
    have hhigh : c.val.toNat ≤ 90 := hrange.2
    have hshift : ('a'.val - 'A'.val : UInt32).toNat = 32 := by decide
    rw [UInt32.toNat_add, hshift] at hval
    have hlower : d.isLower = true := by
      unfold Char.isLower
      simp only [Bool.and_eq_true, decide_eq_true_eq, UInt32.le_iff_toNat_le, ge_iff_le]
      have ha : 'a'.val.toNat = 97 := by decide
      have hz : 'z'.val.toNat = 122 := by decide
      omega
    rw [hd] at hlower
    exact nomatch hlower

/-- A token without brackets is apart from every text between brackets. -/
theorem apart_of_no_bracket {token replacement : String}
    (h : ∀ c ∈ token.toList, c ≠ '[' ∧ c ≠ ']') {form : List Char}
    (hform : Rule.Delimited '[' ']' form) : (tokenRule token replacement).Apart form := by
  have hfold : ∀ d, d = '[' ∨ d = ']' →
      (tokenRule token replacement).fold d
        ∉ (tokenRule token replacement).pattern.map (tokenRule token replacement).fold := by
    intro d hd hmem
    obtain ⟨c, hc, hcd⟩ := List.mem_map.mp hmem
    have hplain := h c hc
    unfold tokenRule at hcd
    cases hascii : isAscii token with
    | true =>
      simp only [hascii, if_true] at hcd
      have hdfold : d.toLower = d := by obtain rfl | rfl := hd <;> decide
      have hnotLower : d.isLower = false := by obtain rfl | rfl := hd <;> decide
      have heq := eq_of_toLower_eq (hcd.trans hdfold) hnotLower
      obtain rfl | rfl := hd
      · exact hplain.1 heq
      · exact hplain.2 heq
    | false =>
      simp only [hascii, Bool.false_eq_true, if_false, id_eq] at hcd
      obtain rfl | rfl := hd
      · exact hplain.1 hcd
      · exact hplain.2 hcd
  exact Rule.apart_of_delimited hform (hfold _ (Or.inl rfl)) (hfold _ (Or.inr rfl))

theorem no_bracket_of_all {p : Char → Bool} (hp : p '[' = false ∧ p ']' = false) {s : String}
    (h : s.toList.all p = true) : ∀ c ∈ s.toList, c ≠ '[' ∧ c ≠ ']' := by
  intro c hc
  have hpc := List.all_eq_true.mp h c hc
  refine ⟨?_, ?_⟩
  · rintro rfl
    rw [hp.1] at hpc
    exact nomatch hpc
  · rintro rfl
    rw [hp.2] at hpc
    exact nomatch hpc

/-- Every form of a marker stands between brackets. -/
theorem delimited_form {policy : Policy} {x : Rule Char × List (Rule Char)}
    (hx : x ∈ firing [] (identityRules policy)) {form : List Char}
    (hform : form ∈ formsUnder x.2 x.1.marker) : Rule.Delimited '[' ']' form := by
  obtain ⟨before, hrules, -⟩ := mem_firing hx
  have hsub : ∀ s ∈ x.1 :: x.2, s ∈ identityRules policy := by
    intro s hs
    rw [hrules]
    exact List.mem_append_right _ hs
  refine delimited_of_mem_formsUnder ?_ ?_ ?_ form hform
  · exact fun s hs => identityRules_ne s (hsub s (List.mem_cons_of_mem _ hs))
  · exact fun s hs => identityRules_marker s (hsub s (List.mem_cons_of_mem _ hs))
  · exact identityRules_marker x.1 (hsub x.1 (List.mem_cons_self ..))

/-- Perspectives without brackets overlap no marker in part. -/
theorem perspectivesApart_of_no_bracket {policy : Policy}
    (h : ∀ route ∈ policy.routes,
      route.perspective.toList.all (fun c => c != '[' && c != ']') = true) :
    PerspectivesApart policy :=
  fun route hr _ _ hx _ hform =>
    apart_of_no_bracket (no_bracket_of_all (by decide) (h route hr)) (delimited_form hx hform)

/-- In a valid policy only a perspective can overlap a marker in part. -/
theorem identityRules_apart {policy : Policy} (hvalid : policy.validate = .ok ())
    (hapart : PerspectivesApart policy) : ∀ x ∈ firing [] (identityRules policy),
      ∀ form ∈ formsUnder x.2 x.1.marker, ∀ r ∈ identityRules policy, r.Apart form := by
  intro x hx form hform r hr
  obtain ⟨hroutes, htext, hmulti⟩ := Policy.validate_ok hvalid
  have hdelimited := delimited_form hx hform
  obtain ⟨token, htoken, rfl⟩ := List.mem_map.mp hr
  obtain ⟨hmem, hlen⟩ := List.mem_filter.mp (mem_r2IdentityReplacements htoken).1
  obtain hroute | hmodel := List.mem_append.mp hmem
  · obtain ⟨route, hr, htok⟩ := List.mem_flatMap.mp hroute
    simp only [List.mem_cons, List.not_mem_nil, or_false] at htok
    obtain heq | heq | heq := htok
    · exact apart_of_no_bracket (heq ▸ no_bracket_of_all (by decide) (hroutes route hr).2)
        hdelimited
    · have hparty : route.partyId.toList.all (fun c => c != '[' && c != ']') = true := by
        have hfixed := (hroutes route hr).1
        simp only [List.mem_cons, List.not_mem_nil, or_false] at hfixed
        obtain h | h | h | h | h | h | h := hfixed <;> rw [h] <;> rfl
      exact apart_of_no_bracket (heq ▸ no_bracket_of_all (by decide) hparty) hdelimited
    · have hperspective := hapart route hr (heq ▸ of_decide_eq_true hlen) x hx form hform
      rw [← heq] at hperspective
      exact hperspective
  · simp only [List.mem_cons, List.not_mem_nil, or_false] at hmodel
    obtain heq | heq := hmodel
    · exact apart_of_no_bracket (heq ▸ no_bracket_of_all (by decide) htext) hdelimited
    · exact apart_of_no_bracket (heq ▸ no_bracket_of_all (by decide) hmulti) hdelimited

/-- **Scrubbed prose**: no text keeps a token iff no settled marker has one. -/
theorem scrubText_clean_iff {policy : Policy} (hvalid : policy.validate = .ok ())
    (hapart : PerspectivesApart policy) :
    (∀ text, ∀ token ∈ identityTokens policy,
      ¬ ContainsToken token (scrubText (r2IdentityReplacements policy) text)) ↔
    ∀ text ∈ settledMarkers policy, ∀ token ∈ identityTokens policy,
      ¬ ContainsToken token text := by
  have htokens : ∀ text : String, (∀ token ∈ identityTokens policy, ¬ ContainsToken token text) ↔
      ∀ r ∈ identityRules policy, ¬ r.Occurs text.toList := by
    intro text
    have hexists : (∃ token ∈ identityTokens policy, ContainsToken token text) ↔
        ∃ r ∈ identityRules policy, r.Occurs text.toList := exists_occurs_iff.symm
    grind
  have hclean := applyAll_clean_iff identityRules_ne identityRules_compat
    (identityRules_apart hvalid hapart)
  constructor
  · intro h text htext
    obtain ⟨⟨r, later⟩, hx, rfl⟩ := List.mem_map.mp htext
    -- a marker that later rules have settled is a text like any other
    rw [htokens, String.toList_ofList]
    refine hclean.mp (fun chars => ?_) _ hx
    have hchars := (htokens _).mp (h (String.ofList chars))
    rw [scrubText_toList, String.toList_ofList] at hchars
    exact hchars
  · intro h text
    rw [htokens, scrubText_toList]
    refine hclean.mpr (fun x hx => ?_) text.toList
    have hx' := (htokens _).mp (h _ (List.mem_map_of_mem hx))
    rwa [String.toList_ofList] at hx'

/-! ### The packet -/

/-- Every string of a scrubbed residual is a scrubbed text: where an
    enumeration parsed, its spelling is one too. -/
theorem strings_of_scrubResidual {tokens : List (String × String)} {residual scrubbed : Residual}
    (h : scrubResidual tokens residual = some scrubbed) :
    ∀ text ∈ scrubbed.strings, ∃ source, text = scrubText tokens source := by
  obtain ⟨severity, hs, h⟩ := Option.bind_eq_some_iff.mp h
  obtain ⟨disposition, hd, h⟩ := Option.bind_eq_some_iff.mp h
  obtain ⟨closureState, hc, h⟩ := Option.bind_eq_some_iff.mp h
  cases h
  intro text htext
  simp only [Residual.strings, List.mem_append, List.mem_cons, List.not_mem_nil, or_false,
    spelling_of_spelt hs, spelling_of_spelt hd, spelling_of_spelt hc, List.mem_map] at htext
  grind

theorem strings_of_scrubLaneOutput {tokens : List (String × String)} {output scrubbed : LaneOutput}
    (h : scrubLaneOutput output tokens = some scrubbed) :
    ∀ text ∈ scrubbed.strings, ∃ source, text = scrubText tokens source := by
  obtain ⟨residuals, hres, h⟩ := Option.bind_eq_some_iff.mp h
  cases h
  intro text htext
  simp only [LaneOutput.strings, List.mem_append, List.mem_flatMap] at htext
  obtain (((hhead | ⟨claim, hclaim, htext⟩) | ⟨residual, hresidual, htext⟩) | hmem) | hmem := htext
  · grind
  · obtain ⟨source, -, rfl⟩ := List.mem_map.mp hclaim
    simp only [Claim.strings, scrubClaim, List.mem_append, List.mem_cons, List.not_mem_nil,
      or_false, List.mem_map, Option.mem_toList, Option.map_eq_some_iff] at htext
    grind
  · obtain ⟨source, -, hsource⟩ := exists_of_forall₂_right (forall₂_of_mapM hres) hresidual
    exact strings_of_scrubResidual hsource text htext
  · obtain ⟨source, -, rfl⟩ := List.mem_map.mp hmem
    exact ⟨source, rfl⟩
  · obtain ⟨source, -, rfl⟩ := List.mem_map.mp hmem
    exact ⟨source, rfl⟩

/-- A participant is a label with the scrubbed output of a lane. -/
theorem mem_participants {manifest : RunManifest} {brief : Brief} {r1 : List LaneAccepted}
    {policy : Policy} {rotation : Nat} {packet : R2Packet}
    (h : buildR2Packet manifest brief r1 policy rotation = some packet) :
    ∀ participant ∈ packet.participants, participant.1 ∈ participantLabels ∧
      ∃ output, scrubLaneOutput output (r2IdentityReplacements policy) = some participant.2 := by
  obtain ⟨participants, hmap, h⟩ := Option.bind_eq_some_iff.mp h
  cases h
  intro participant hmem
  have hmem' := (List.mem_insertionSort _).mp hmem
  obtain ⟨⟨label, lane, index⟩, hchosen, hlane⟩ :=
    exists_of_forall₂_right (forall₂_of_mapM hmap) hmem'
  obtain ⟨output, hscrub, rfl⟩ := Option.map_eq_some_iff.mp hlane
  have hlabel := (List.of_mem_zip (List.mem_filter.mp hchosen).1).1
  exact ⟨List.mem_rotate.mp hlabel, lane.output, hscrub⟩

/-- A lane whose verdict is the text, contested for its confidence. -/
def unsureLane (verdict : String) : LaneAccepted where
  partyId := ""
  routeId := ""
  output := {
    laneOutputVersion := "1.0"
    taskRestatement := ""
    verdict := verdict
    confidence := 0
    claims := []
    residuals := []
    uncertainties := []
    limitations := [] }
  artifactRef := ""

theorem unsureLane_contested (verdict : String) : r1Contestation [unsureLane verdict] = [0] := by
  have hcontested : Contested [unsureLane verdict] (unsureLane verdict) :=
    Or.inr (Or.inr (Or.inl (by norm_num [unsureLane, unsupportedConfidenceFloor])))
  have hflags : r1Flags [unsureLane verdict] = [true] := by
    rw [r1_flags_eq]
    simp [hcontested]
  rw [r1Contestation, hflags]
  rfl

/-- A packet in which a lane with that verdict has that label. -/
theorem packet_of_text (policy : Policy) (verdict : String) {label : String}
    (hlabel : label ∈ participantLabels) : ∃ rotation packet scrubbed,
      buildR2Packet default default [unsureLane verdict] policy rotation = some packet ∧
      (label, scrubbed) ∈ packet.participants ∧
      scrubText (r2IdentityReplacements policy) verdict ∈ scrubbed.strings := by
  obtain ⟨rotation, rest, hrotate⟩ : ∃ rotation rest,
      participantLabels.rotate rotation = label :: rest := by
    -- the rotation that puts this label first
    simp only [participantLabels, List.mem_cons, List.not_mem_nil, or_false] at hlabel
    obtain rfl | rfl | rfl | rfl | rfl := hlabel
    · exact ⟨0, _, rfl⟩
    · exact ⟨1, _, rfl⟩
    · exact ⟨2, _, rfl⟩
    · exact ⟨3, _, rfl⟩
    · exact ⟨4, _, rfl⟩
  obtain ⟨scrubbed, hscrub, hverdict⟩ : ∃ scrubbed,
      scrubLaneOutput (unsureLane verdict).output (r2IdentityReplacements policy) = some scrubbed ∧
      scrubbed.verdict = scrubText (r2IdentityReplacements policy) verdict := ⟨_, rfl, rfl⟩
  refine ⟨rotation, {
    packetVersion := "1.0"
    runId := (default : RunManifest).runId
    question := (default : Brief).question
    participants := [(label, scrubbed)]
    evidenceManifestSha256 := (default : RunManifest).snapshotSha256 }, scrubbed, ?_,
    List.mem_singleton_self _, ?_⟩
  · simp [buildR2Packet, hrotate, unsureLane_contested, hscrub]
  · rw [← hverdict]
    simp [LaneOutput.strings]

/-- **The packets of a valid policy carry no identity token** iff no token is
    inside a settled marker or a label, as long as no perspective overlaps a
    marker in part. -/
theorem r2_packet_pseudonymous_iff (policy : Policy) (hvalid : policy.validate = .ok ())
    (hapart : PerspectivesApart policy) :
    (∀ manifest brief r1 rotation packet,
      buildR2Packet manifest brief r1 policy rotation = some packet → Pseudonymous policy packet) ↔
    MarkersAreNeutral policy := by
  have hclean := scrubText_clean_iff hvalid hapart
  constructor
  · intro h text htext
    obtain hsettled | hlabel := List.mem_append.mp htext
    · refine hclean.mp (fun verdict token htoken => ?_) text hsettled
      obtain ⟨rotation, packet, scrubbed, hbuild, hmem, hstring⟩ :=
        packet_of_text policy verdict (List.mem_cons_self ..)
      exact h _ _ _ _ _ hbuild _ hmem _ (List.mem_cons_of_mem _ hstring) token htoken
    · intro token htoken
      obtain ⟨rotation, packet, scrubbed, hbuild, hmem, -⟩ := packet_of_text policy "" hlabel
      exact h _ _ _ _ _ hbuild _ hmem _ (List.mem_cons_self ..) token htoken
  · intro h manifest brief r1 rotation packet hbuild participant hmem text htext
    obtain ⟨hlabel, output, hscrub⟩ := mem_participants hbuild participant hmem
    obtain rfl | hstring := List.mem_cons.mp htext
    · exact h _ (List.mem_append_right _ hlabel)
    · obtain ⟨source, rfl⟩ := strings_of_scrubLaneOutput hscrub text hstring
      exact hclean.mpr (fun settled hs => h settled (List.mem_append_left _ hs)) source

theorem r2_packet_pseudonymous_sample : MarkersAreNeutral (Policy.samplePolicy "lane-a") ∧
    ∀ manifest brief r1 rotation packet,
      buildR2Packet manifest brief r1 (Policy.samplePolicy "lane-a") rotation = some packet →
      Pseudonymous (Policy.samplePolicy "lane-a") packet := by
  have hneutral : MarkersAreNeutral (Policy.samplePolicy "lane-a") := by decide +kernel
  exact ⟨hneutral, (r2_packet_pseudonymous_iff (Policy.samplePolicy "lane-a") (by decide +kernel)
    (perspectivesApart_of_no_bracket (by decide +kernel))).mpr hneutral⟩

def reviewLane (verdict : String) : LaneAccepted :=
  { unsureLane verdict with
    output := { sampleLaneOutput with verdict := verdict } }

/-- **A route that is named `route`**: the policy is valid, and its own marker
    carries its name. -/
theorem r2_packet_not_pseudonymous :
    ¬ ∀ policy : Policy, policy.validate = .ok () → ∀ manifest brief r1 rotation packet,
      r1.length = 5 → (∀ lane ∈ r1, Schema.laneOutput lane.output = true) →
      buildR2Packet manifest brief r1 policy rotation = some packet →
      Pseudonymous policy packet := by
  intro h
  let r1 := reviewLane "the route is wrong" :: List.replicate 4 (reviewLane "revise")
  have hcarries : (buildR2Packet default default r1 (Policy.samplePolicy "route") 0).any
      (fun packet => packet.participants.any fun participant => participant.2.strings.any fun text =>
        decide (ContainsToken "route" text)) = true := by decide +kernel
  obtain ⟨packet, hbuild, hcarries⟩ := (Option.any_eq_true _ _).mp hcarries
  obtain ⟨participant, hmem, hcarries⟩ := List.any_eq_true.mp hcarries
  obtain ⟨text, htext, hcontains⟩ := List.any_eq_true.mp hcarries
  exact h (Policy.samplePolicy "route") (by decide +kernel) default default r1 0 packet rfl
    (by decide +kernel) hbuild participant hmem text (List.mem_cons_of_mem _ htext) "route"
    (by decide +kernel) (of_decide_eq_true hcontains)

end Quinte
