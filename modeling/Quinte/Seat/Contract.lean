import Mathlib
import Quinte.Framework.Braces
import Quinte.Model.Types

/-! # Artifacts of replies

    `contract.rs` takes the artifact out of what a model replied: the text is
    stripped of its fence, read as a whole, and then searched for a block in
    braces.  Schema validation is a parameter.

    * `extractArtifact_ok`: which artifact is found;
    * `extractArtifact_iff`: for which replies it is the only one.
-/

namespace Quinte.Pi

open Json (Text ObjectParser firstBlock)

/-! ### The code -/

/-- `str::trim`, of the characters. -/
def trimText (text : Text) : Text := (trim (String.ofList text)).toList

/-- `str::strip_prefix`. -/
def stripPrefix (front text : Text) : Option Text :=
  if front.isPrefixOf text then some (text.drop front.length) else none

/-- `str::strip_suffix`. -/
def stripSuffix (back text : Text) : Option Text :=
  if back.isSuffixOf text then some (text.take (text.length - back.length)) else none

/-- `largest_object`: the walk starts at the first brace. -/
def largestObject (text : Text) : Option Text :=
  firstBlock 0 false false (text.dropWhile (· ≠ '\x7b'))

example : largestObject "prose\n```json\n\x7b\"a\": \x7b\"b\": 1\x7d\x7d\n```\ntail".toList
    = some "\x7b\"a\": \x7b\"b\": 1\x7d\x7d".toList := by
  decide +kernel

/-- What is between the fences, if the second one is there. -/
def fenced (rest : Text) : List Text :=
  match stripSuffix "```".toList rest with
  | some s => [trimText s]
  | none => []

/-- The `candidates` of a trimmed reply. -/
def candidates (text : Text) : List Text :=
  match stripPrefix "```json".toList text with
  | some rest => fenced rest
  | none => match stripPrefix "```".toList text with
    | some rest => fenced rest
    | none => [text]

section code

variable (parse : Text → Option Json) (validate : Json → Except String Unit) (schemaName : String)

/-- The loop over the candidates. -/
def tryCandidates (lastErr : Option String) : List Text → Except String Json
  | [] => .error (lastErr.getD ("model output contains no valid " ++ schemaName ++ " JSON object"))
  | candidate :: rest => match parse candidate with
    | some value => match validate value with
      | .error e => tryCandidates (some e) rest
      | .ok () => .ok value
    | none => match (largestObject candidate).bind parse with
      | some value => match validate value with
        | .error e => tryCandidates (some e) rest
        | .ok () => .ok value
      | none => tryCandidates lastErr rest

/-- `extract_artifact`, given what `serde_json::from_str` and `validate` do. -/
def extractArtifact (content : String) : Except String Json :=
  tryCandidates parse validate schemaName none (candidates (trim content).toList)

end code

/-! ### Artifacts -/

/-- A reply without its fence. One that is not closed is prose. -/
def body (content : String) : Text :=
  (candidates (trim content).toList).headD (trim content).toList

section artifacts

variable (parse : Text → Option Json) (validate : Json → Except String Unit)

/-- A JSON object stands in the text, after `before`. -/
structure ObjectAt (text before block : Text) (v : Json) : Prop where
  within : ∃ after, text = before ++ (block ++ after)
  braces : ∃ inner, block = '\x7b' :: (inner ++ ['\x7d'])
  value : parse block = some v

/-- It is not inside another one. -/
structure TopLevel (text before block : Text) (v : Json) : Prop
    extends ObjectAt parse text before block v where
  outermost : ∀ before' block' v', ObjectAt parse text before' block' v' →
    before'.length ≤ before.length →
    before.length + block.length ≤ before'.length + block'.length →
    before' = before ∧ block' = block

/-- A top-level object that meets the contract. -/
def Artifact (text before block : Text) (v : Json) : Prop :=
  TopLevel parse text before block v ∧ validate v = .ok ()

/-- The text contains exactly one artifact, and this is its value. -/
def OnlyArtifact (text : Text) (v : Json) : Prop :=
  ∃ before block, Artifact parse validate text before block v ∧
    ∀ before' block' v', Artifact parse validate text before' block' v' →
      before' = before ∧ block' = block

/-- The fence is closed, what it holds is not a JSON value of another kind, and
    no brace stands before this point. -/
def Seen (content : String) (before : Text) : Prop :=
  candidates (trim content).toList ≠ [] ∧
    (∀ v, parse (body content) = some v → v.isObject = true) ∧ '\x7b' ∉ before

/-- The reply as a whole is a value of another kind, and meets the contract. -/
def Misread (content : String) (v : Json) : Prop :=
  candidates (trim content).toList ≠ [] ∧ parse (body content) = some v ∧
    v.isObject = false ∧ validate v = .ok ()

/-- The reply is not misread, and of its artifacts either all are seen, or none
    is and there are two. -/
def ScanSuffices (content : String) : Prop :=
  (∀ v, ¬ Misread parse validate content v) ∧
    ((∀ before block v, Artifact parse validate (body content) before block v →
        Seen parse content before) ∨
      (∃ before block v before' block' v',
        Artifact parse validate (body content) before block v ∧
        Artifact parse validate (body content) before' block' v' ∧
        ¬ (before' = before ∧ block' = block)) ∧
      ∀ before block v, Artifact parse validate (body content) before block v →
        ¬ Seen parse content before)

end artifacts

/-! ### What is found -/

section found

variable {parse : Text → Option Json} {validate : Json → Except String Unit}
  {schemaName : String} {text before block : Text} {v : Json}

theorem dropWhile_brace (h : '\x7b' ∉ before) (rest : Text) :
    (before ++ '\x7b' :: rest).dropWhile (· ≠ '\x7b') = '\x7b' :: rest := by
  rw [List.dropWhile_append_of_pos, List.dropWhile_cons_of_neg (by simp)]
  intro c hc
  exact decide_eq_true fun heq => h (heq ▸ hc)

/-- An object with no space around it is a pair of braces around a balanced text. -/
theorem nested_of_braces (hparse : ObjectParser parse) {inner : Text}
    (h : parse ('\x7b' :: (inner ++ ['\x7d'])) = some v) : Json.Nested inner := by
  obtain ⟨space, inner', space', hspace, hnested, htext⟩ :=
    hparse.nested _ _ h (hparse.brace _ _ h)
  have hfront : space = [] := by
    cases space with
    | nil => rfl
    | cons c cs =>
      obtain rfl : '\x7b' = c := (List.cons.inj htext).1
      exact absurd (hspace '\x7b' (by simp)) (by decide)
  subst hfront
  have hback : space' = [] := by
    rcases List.eq_nil_or_concat space' with rfl | ⟨cs, c, rfl⟩
    · rfl
    · have htail : inner ++ ['\x7d'] = (inner' ++ '\x7d' :: cs) ++ [c] := by
        simpa using (List.cons.inj htext).2
      obtain ⟨-, hclose⟩ := List.append_inj' htail rfl
      obtain rfl : '\x7d' = c := (List.cons.inj hclose).1
      exact absurd (hspace '\x7d' (by simp)) (by decide)
  subst hback
  obtain rfl : inner = inner' := by
    simpa using htext
  exact hnested

/-- The object at the first brace is what the walk finds. -/
theorem ObjectAt.largestObject (hparse : ObjectParser parse)
    (h : ObjectAt parse text before block v) (hfirst : '\x7b' ∉ before) :
    largestObject text = some block := by
  obtain ⟨⟨after, rfl⟩, ⟨inner, rfl⟩, hvalue⟩ := h
  have hnested := nested_of_braces hparse hvalue
  unfold Pi.largestObject
  rw [List.cons_append, dropWhile_brace hfirst, List.append_assoc]
  exact Json.firstBlock_nested hnested after

theorem head_of_dropWhile {c : Char} {rest : Text}
    (h : text.dropWhile (· ≠ '\x7b') = c :: rest) : c = '\x7b' := by
  have hhead := List.head?_dropWhile_not (· ≠ '\x7b') text
  rw [h] at hhead
  simpa using hhead

/-- What the walk finds stands at the first brace. -/
theorem objectAt_of_largestObject (h : largestObject text = some block)
    (hvalue : parse block = some v) :
    ∃ before, ObjectAt parse text before block v ∧ '\x7b' ∉ before := by
  unfold largestObject at h
  obtain ⟨front, rest, rfl, htext⟩ := Json.blockOf_firstBlock h
  have hsplit : text.takeWhile (· ≠ '\x7b') ++ text.dropWhile (· ≠ '\x7b') = text :=
    List.takeWhile_append_dropWhile
  have hbefore : '\x7b' ∉ text.takeWhile (· ≠ '\x7b') := by
    intro hmem
    simpa using List.mem_takeWhile_imp hmem
  refine ⟨_, ⟨⟨rest, ?_⟩, ?_, hvalue⟩, hbefore⟩
  · rw [← htext]
    exact hsplit.symm
  · -- the block starts with the brace at which the walk started
    cases front with
    | nil => exact absurd (head_of_dropWhile htext) (by decide)
    | cons c cs =>
      obtain rfl := head_of_dropWhile htext
      exact ⟨cs, rfl⟩

/-- The object at the first brace is a top-level one. -/
theorem ObjectAt.topLevel (hparse : ObjectParser parse)
    (h : ObjectAt parse text before block v) (hfirst : '\x7b' ∉ before) :
    TopLevel parse text before block v := by
  refine ⟨h, ?_⟩
  intro before' block' v' h' hle _
  -- an object that starts earlier would have its brace before this one
  have hbefore : before' = before := by
    obtain ⟨⟨after, htext⟩, -, -⟩ := h
    obtain ⟨⟨after', htext'⟩, ⟨inner', rfl⟩, -⟩ := h'
    rcases Nat.lt_or_eq_of_le hle with hlt | heq
    · exfalso
      apply hfirst
      have hget : text[before'.length]? = some '\x7b' := by
        rw [htext']
        simp
      rw [htext, List.getElem?_append_left hlt] at hget
      exact List.mem_of_getElem? hget
    · exact (List.append_inj (htext'.symm.trans htext) heq).1
  refine ⟨hbefore, ?_⟩
  subst hbefore
  have hfound := h.largestObject hparse hfirst
  exact Option.some.inj ((h'.largestObject hparse hfirst).symm.trans hfound)

/-- No white space at either end. -/
def Trimmed (text : Text) : Prop :=
  ∀ c, text.head? = some c ∨ text.getLast? = some c → isWhiteSpace c = false

theorem trimmed_trim (s : String) : Trimmed (trim s).toList := by
  unfold trim
  rw [String.toList_ofList]
  generalize s.toList = chars
  have hhead : ∀ (l : List Char) c, (l.dropWhile isWhiteSpace).head? = some c →
      isWhiteSpace c = false := by
    intro l c hc
    have hnot := List.head?_dropWhile_not isWhiteSpace l
    rw [hc] at hnot
    simpa using hnot
  intro c hc
  rcases hc with hc | hc
  · -- what is stripped from the end leaves the first character
    apply hhead chars c
    have hprefix : ((chars.dropWhile isWhiteSpace).reverse.dropWhile isWhiteSpace).reverse
        <+: chars.dropWhile isWhiteSpace := by
      rw [← List.reverse_suffix, List.reverse_reverse]
      exact List.dropWhile_suffix isWhiteSpace
    obtain ⟨rest, hrest⟩ := hprefix
    rw [← hrest, List.head?_append, hc]
    rfl
  · rw [List.getLast?_reverse] at hc
    exact hhead _ c hc

theorem trimmed_of_mem_candidates {s : String} {candidate : Text}
    (h : candidate ∈ candidates (trim s).toList) : Trimmed candidate := by
  have hfenced : ∀ rest, candidate ∈ fenced rest → Trimmed candidate := by
    intro rest hmem
    unfold fenced at hmem
    split at hmem
    · rw [List.mem_singleton.mp hmem]
      exact trimmed_trim _
    · cases hmem
  unfold candidates at h
  split at h
  · exact hfenced _ h
  · split at h
    · exact hfenced _ h
    · rw [List.mem_singleton.mp h]
      exact trimmed_trim s

theorem isWhiteSpace_of_isSpace {c : Char} (h : Json.isSpace c = true) :
    isWhiteSpace c = true := by
  simp only [Json.isSpace, Bool.or_eq_true, decide_eq_true_eq] at h
  rcases h with ((rfl | rfl) | rfl) | rfl <;> rfl

/-- An object that is the whole text is the one at the first brace. -/
theorem objectAt_whole (hparse : ObjectParser parse) (htrim : Trimmed text)
    (h : parse text = some v) (hobject : v.isObject = true) : ObjectAt parse text [] text v := by
  obtain ⟨space, inner, space', hspace, -, rfl⟩ := hparse.nested text v h hobject
  have hfront : space = [] := by
    cases space with
    | nil => rfl
    | cons c cs =>
      have hwhite := isWhiteSpace_of_isSpace (hspace c (by simp))
      rw [htrim c (Or.inl rfl)] at hwhite
      cases hwhite
  subst hfront
  have hback : space' = [] := by
    rcases List.eq_nil_or_concat space' with rfl | ⟨cs, c, rfl⟩
    · rfl
    · have hwhite := isWhiteSpace_of_isSpace (hspace c (by simp))
      have hlast : ([] ++ '\x7b' :: (inner ++ '\x7d' :: cs.concat c)).getLast? = some c := by
        simp [List.getLast?_cons, List.getLast?_append]
      rw [htrim c (Or.inr hlast)] at hwhite
      cases hwhite
  subst hback
  exact ⟨⟨[], by simp⟩, ⟨inner, rfl⟩, h⟩

/-- What the loop makes of the only candidate. -/
theorem tryCandidates_single {candidate : Text} :
    tryCandidates parse validate schemaName none [candidate] = .ok v ↔
      (parse candidate = some v ∨
        parse candidate = none ∧ (largestObject candidate).bind parse = some v)
      ∧ validate v = .ok () := by
  unfold tryCandidates
  cases hwhole : parse candidate with
  -- the whole candidate is read, and the block in it is not looked at
  | some value =>
    cases hvalid : validate value with
    | ok u =>
      simp_all
      rintro rfl
      exact hvalid
    | error e =>
      simp_all [tryCandidates]
      rintro rfl
      simp [hvalid]
  | none =>
    cases hblock : (largestObject candidate).bind parse with
    | none => simp [tryCandidates]
    | some value =>
      cases hvalid : validate value with
      | ok u =>
        simp_all
        rintro rfl
        exact hvalid
      | error e =>
        simp_all [tryCandidates]
        rintro rfl
        simp [hvalid]

/-- **What is found** of a reply: the value of the artifact at the first brace,
    or a value of another kind that the whole reply is. -/
theorem extractArtifact_ok (hparse : ObjectParser parse) (schemaName content : String) :
    extractArtifact parse validate schemaName content = .ok v ↔
      Misread parse validate content v ∨
        ∃ before block, Artifact parse validate (body content) before block v
          ∧ Seen parse content before := by
  unfold extractArtifact
  have hcases : candidates (trim content).toList = []
      ∨ candidates (trim content).toList = [body content] := by
    unfold body candidates fenced
    split
    · split <;> simp
    · split
      · split <;> simp
      · simp
  rcases hcases with hnone | hsingle
  · -- the fence is not closed
    rw [hnone]
    constructor
    · intro h
      cases h
    · rintro (⟨hclosed, -⟩ | ⟨before, block, -, hclosed, -⟩)
      · exact (hclosed hnone).elim
      · exact (hclosed hnone).elim
  · have hclosed : candidates (trim content).toList ≠ [] := by simp [hsingle]
    have htrim : Trimmed (body content) :=
      trimmed_of_mem_candidates (hsingle ▸ List.mem_singleton_self _)
    rw [hsingle, tryCandidates_single]
    constructor
    · rintro ⟨hwhole | ⟨hnone, hblock⟩, hvalid⟩
      · cases hobject : v.isObject with
        | false => exact Or.inl ⟨hclosed, hwhole, hobject, hvalid⟩
        | true =>
          have hat := objectAt_whole hparse htrim hwhole hobject
          refine Or.inr ⟨[], _, ⟨hat.topLevel hparse (by simp), hvalid⟩, hclosed, ?_, by simp⟩
          intro w hw
          obtain rfl := Option.some.inj (hw.symm.trans hwhole)
          exact hobject
      · obtain ⟨block, hblock, hvalue⟩ := Option.bind_eq_some_iff.mp hblock
        obtain ⟨before, hat, hfirst⟩ := objectAt_of_largestObject hblock hvalue
        refine Or.inr ⟨before, block, ⟨hat.topLevel hparse hfirst, hvalid⟩, hclosed, ?_, hfirst⟩
        intro w hw
        cases hw.symm.trans hnone
    · rintro (⟨-, hwhole, -, hvalid⟩ | ⟨before, block, ⟨htop, hvalid⟩, -, hkind, hfirst⟩)
      · exact ⟨Or.inl hwhole, hvalid⟩
      · refine ⟨?_, hvalid⟩
        have hblock := htop.toObjectAt.largestObject hparse hfirst
        cases hwhole : parse (body content) with
        | none => exact Or.inr ⟨rfl, by rw [hblock, Option.bind_some, htop.value]⟩
        | some w =>
          -- the whole text is the object at the first brace
          have hat := objectAt_whole hparse htrim hwhole (hkind w hwhole)
          have hsame := (hat.largestObject hparse (by simp)).symm.trans hblock
          have hvalue := htop.value
          rw [← Option.some.inj hsame, hwhole] at hvalue
          exact Or.inl hvalue

/-- A value of another kind is not that of an object. -/
theorem Misread.not_objectAt (hparse : ObjectParser parse) {content : String}
    (h : Misread parse validate content v) (hat : ObjectAt parse text before block v) : False := by
  obtain ⟨-, ⟨inner, rfl⟩, hvalue⟩ := hat
  have hobject := hparse.brace _ _ hvalue
  rw [h.2.2.1] at hobject
  cases hobject

/-- Only one object stands at the first brace. -/
theorem seen_unique (hparse : ObjectParser parse) {before' block' : Text} {v' : Json}
    (h : ObjectAt parse text before block v) (hfirst : '\x7b' ∉ before)
    (h' : ObjectAt parse text before' block' v') (hfirst' : '\x7b' ∉ before') :
    before' = before ∧ block' = block := by
  have hblock : block' = block :=
    Option.some.inj ((h'.largestObject hparse hfirst').symm.trans (h.largestObject hparse hfirst))
  subst hblock
  obtain ⟨⟨after, htext⟩, ⟨inner, rfl⟩, -⟩ := h
  obtain ⟨⟨after', htext'⟩, -, -⟩ := h'
  refine ⟨?_, rfl⟩
  have htake : ∀ (front rest : Text), '\x7b' ∉ front →
      (front ++ '\x7b' :: rest).takeWhile (· ≠ '\x7b') = front := by
    intro front rest hfront
    rw [List.takeWhile_append_of_pos, List.takeWhile_cons_of_neg (by simp), List.append_nil]
    intro c hc
    exact decide_eq_true fun heq => hfront (heq ▸ hc)
  rw [← htake before' _ hfirst', ← htake before _ hfirst]
  rw [List.cons_append] at htext htext'
  rw [← htext, ← htext']

end found

section exactly

variable {parse : Text → Option Json}

/-- **The only artifact is found, and nothing else**, exactly in the replies
    for which looking at the first brace suffices. -/
theorem extractArtifact_iff (hparse : ObjectParser parse) (validate : Json → Except String Unit)
    (schemaName content : String) :
    (∀ v, extractArtifact parse validate schemaName content = .ok v ↔
      OnlyArtifact parse validate (body content) v) ↔
    ScanSuffices parse validate content := by
  constructor
  · intro hexact
    constructor
    · intro v hmisread
      have hok := (extractArtifact_ok hparse schemaName content).mpr (Or.inl hmisread)
      obtain ⟨before, block, ⟨htop, -⟩, -⟩ := (hexact v).mp hok
      exact hmisread.not_objectAt hparse htop.toObjectAt
    · by_cases hseen : ∃ before block v, Artifact parse validate (body content) before block v
          ∧ Seen parse content before
      · obtain ⟨before, block, v, hartifact, hseen⟩ := hseen
        left
        intro before' block' v' h'
        have hok := (extractArtifact_ok hparse schemaName content).mpr
          (Or.inr ⟨before, block, hartifact, hseen⟩)
        obtain ⟨front, found, -, honly⟩ := (hexact v).mp hok
        rw [(honly _ _ _ h').1, ← (honly _ _ _ hartifact).1]
        exact hseen
      · by_cases hany : ∃ before block v, Artifact parse validate (body content) before block v
        · right
          obtain ⟨before, block, v, hartifact⟩ := hany
          refine ⟨?_, fun before' block' v' h' hs => hseen ⟨before', block', v', h', hs⟩⟩
          by_contra hone
          -- nothing is found, though there is one artifact
          have honly : OnlyArtifact parse validate (body content) v := by
            refine ⟨before, block, hartifact, fun before' block' v' h' => ?_⟩
            by_contra hne
            exact hone ⟨before, block, v, before', block', v', hartifact, h', hne⟩
          have hok := (hexact v).mpr honly
          rcases (extractArtifact_ok hparse schemaName content).mp hok with hmisread | hfound
          · exact hmisread.not_objectAt hparse hartifact.1.toObjectAt
          · obtain ⟨before', block', h', hs⟩ := hfound
            exact hseen ⟨before', block', v, h', hs⟩
        · left
          intro before block v h
          exact (hany ⟨before, block, v, h⟩).elim
  · rintro ⟨hnot, hall | ⟨⟨a, k, u, a', k', u', h, h', hne⟩, hnone⟩⟩ v
    · rw [extractArtifact_ok hparse schemaName content]
      constructor
      · rintro (hmisread | ⟨before, block, hartifact, hseen⟩)
        · exact (hnot v hmisread).elim
        · refine ⟨before, block, hartifact, fun before' block' v' h' => ?_⟩
          exact seen_unique hparse hartifact.1.toObjectAt hseen.2.2 h'.1.toObjectAt
            (hall _ _ _ h').2.2
      · rintro ⟨before, block, hartifact, -⟩
        exact Or.inr ⟨before, block, hartifact, hall _ _ _ hartifact⟩
    · rw [extractArtifact_ok hparse schemaName content]
      constructor
      · rintro (hmisread | ⟨before, block, hartifact, hseen⟩)
        · exact (hnot v hmisread).elim
        · exact (hnone _ _ _ hartifact hseen).elim
      · rintro ⟨before, block, -, honly⟩
        -- two artifacts cannot both be the only one
        have hfirst := honly _ _ _ h
        have hsecond := honly _ _ _ h'
        exact (hne ⟨hsecond.1.trans hfirst.1.symm, hsecond.2.trans hfirst.2.symm⟩).elim

end exactly

/-! ### Two replies -/

/-- Two objects, one after the other. -/
def twoObjects : Text := ['\x7b', '\x7d', '\x7b', '\x7d']

theorem artifact_first :
    Artifact Json.scan (fun _ => .ok ()) twoObjects [] ['\x7b', '\x7d'] (.obj []) := by
  have hat : ObjectAt Json.scan twoObjects [] ['\x7b', '\x7d'] (.obj []) :=
    ⟨⟨['\x7b', '\x7d'], rfl⟩, ⟨[], rfl⟩, by decide +kernel⟩
  exact ⟨hat.topLevel Json.objectParser_scan (by simp), rfl⟩

theorem artifact_second :
    Artifact Json.scan (fun _ => .ok ()) twoObjects ['\x7b', '\x7d'] ['\x7b', '\x7d'] (.obj []) := by
  refine ⟨⟨⟨⟨[], rfl⟩, ⟨[], rfl⟩, by decide +kernel⟩, ?_⟩, rfl⟩
  intro before block v hat hle hlong
  obtain ⟨⟨after, htext⟩, ⟨inner, hinner⟩, hvalue⟩ := hat
  have hlength := congrArg List.length htext
  simp only [twoObjects, List.length_append, List.length_cons, List.length_nil] at hlength hle hlong
  obtain rfl : after = [] := List.eq_nil_of_length_eq_zero (by omega)
  rw [List.append_nil] at htext
  -- a block that reaches to the end starts at one of three places
  rcases before with _ | ⟨a, _ | ⟨b, _ | ⟨c, before⟩⟩⟩
  · obtain rfl : twoObjects = block := htext
    have hnone : Json.scan twoObjects = none := by decide +kernel
    rw [hnone] at hvalue
    cases hvalue
  · obtain ⟨-, hblock⟩ := List.cons.inj htext
    change ['\x7d', '\x7b', '\x7d'] = block at hblock
    rw [hinner] at hblock
    exact absurd (List.cons.inj hblock).1 (by decide)
  · obtain ⟨rfl, hblock⟩ := List.cons.inj htext
    obtain ⟨rfl, rfl⟩ := List.cons.inj hblock
    exact ⟨rfl, rfl⟩
  · simp only [List.length_cons] at hle
    omega

/-- Of two objects the first one is taken for the artifact. -/
theorem extractArtifact_two :
    ¬ ∀ (parse : Text → Option Json) (_ : ObjectParser parse) (validate : Json → Except String Unit)
        (schemaName content : String) (v : Json),
      extractArtifact parse validate schemaName content = .ok v ↔
        OnlyArtifact parse validate (body content) v := by
  intro hall
  have hfound : (extractArtifact Json.scan (fun _ => .ok ()) "" (String.ofList twoObjects)).toOption
      = some (.obj []) := by decide +kernel
  have hbody : body (String.ofList twoObjects) = twoObjects := by decide +kernel
  have hok : extractArtifact Json.scan (fun _ => .ok ()) "" (String.ofList twoObjects)
      = .ok (.obj []) := by
    cases hresult : extractArtifact Json.scan (fun _ => .ok ()) "" (String.ofList twoObjects) with
    | ok w =>
      rw [hresult] at hfound
      exact congrArg Except.ok (Option.some.inj hfound)
    | error e =>
      rw [hresult] at hfound
      cases hfound
  have honly := (hall _ Json.objectParser_scan _ _ _ _).mp hok
  rw [hbody] at honly
  obtain ⟨before, block, -, hsame⟩ := honly
  have hfirst := (hsame _ _ _ artifact_first).1
  have hsecond := (hsame _ _ _ artifact_second).1
  rw [← hfirst] at hsecond
  cases hsecond

/-- A reply that is one object. -/
theorem extractArtifact_one :
    (∀ v, extractArtifact Json.scan (fun _ => .ok ()) "" "\x7b\x7d" = .ok v ↔
      OnlyArtifact Json.scan (fun _ => .ok ()) (body "\x7b\x7d") v) ↔
    ScanSuffices Json.scan (fun _ => .ok ()) "\x7b\x7d" :=
  extractArtifact_iff Json.objectParser_scan (fun _ => .ok ()) "" "\x7b\x7d"

end Quinte.Pi
