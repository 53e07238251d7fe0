import Mathlib
import Quinte.Finance.Review
import Quinte.Finance.Acceptance

/-! # Packets and the outputs bound to them

    A packet is written in the order of its fields.  The check of an output
    writes the packet again, from a map that is kept sorted, and so compares
    the output's digest with that of other bytes.

    * `publish`: what is written for one school;
    * `valuePretty_ne`: the two texts of a packet are never the same;
    * `bindsFile_iff`: when an output binds the file of its packet.
-/

namespace Quinte.Finance

open Json (Codec)
open Policy (require require_ok bind_ok forM_ok)
open Schemas (validateValue)

/-! ### The code -/

/-- A kind of packet, with the folder of its files. -/
structure PacketKind (α : Type) where
  codec : Codec α
  schema : Json.Schema
  folder : String
  family : String
  domain : String
  deep : codec.depth ≤ 100
  ascii : semanticDomain domain = true
  /-- the fields are not in the order of their names -/
  unsorted : ∀ packet, codec.enc packet ≠ toValue codec packet

/-- A packet, as it was written for a school. -/
structure Published (α : Type) where
  school : SchoolId
  packet : α
  bytes : Bytes
  binding : PortableBinding

/-- What every packet of a run names. -/
structure RunBindings where
  runId : String
  invocation : PortableBinding
  policy : PortableBinding
  profile : PortableBinding
  claimManifest : PortableBinding
  primary : PortableBinding
  evidenceIndex : PortableBinding

section code

variable (P : Platform) {α : Type} (kind : PacketKind α)

/-- The digest of a school's route. -/
def routeDigest (policy : FinancePolicy) (authority : SchoolAuthority) : Except String String := do
  let route ← context "profile school has no Policy 3.0 route"
    (policy.schoolBindings.find? (·.schoolId == authority.schoolId))
  semanticDigestValue P FinanceSchoolRoute.codec "quinte.finance-route-binding.v1" route

/-- One round of the loops that write packets. -/
def publish (build : SchoolAuthority → Except String α) (authority : SchoolAuthority) :
    Except String (Published α) := do
  let packet ← build authority
  let value := toValue kind.codec packet
  validateValue value kind.schema
  let bytes := toVecPretty kind.codec packet
  let relative := kind.folder ++ authority.schoolId.name ++ ".json"
  let binding ← bindingFor P relative kind.family "2.0" kind.domain bytes value
  return { school := authority.schoolId, packet, bytes, binding }

/-- The packet of a school for R1. -/
def r1PacketOf (policy : FinancePolicy) (run : RunBindings) (authority : SchoolAuthority) :
    Except String FinanceTaskPacket := do
  let digest ← routeDigest P policy authority
  return buildR1Packet run.runId run.invocation run.policy run.profile run.claimManifest
    run.primary run.evidenceIndex digest authority

/-- The packet of a school for R2. -/
def r2PacketOf (policy : FinancePolicy) (run : RunBindings) (claims : List FinanceClaim)
    (r1 : List SchoolLaneOutput) (r1Bindings : List PortableBinding)
    (authority : SchoolAuthority) : Except String FinanceR2Packet := do
  let digest ← routeDigest P policy authority
  buildR2Packet P run.runId authority claims r1 r1Bindings run.policy run.profile
    run.claimManifest run.primary run.evidenceIndex digest

/-- `dormant_advance`, of one output: the packet is read from the slot of the
    output's school. -/
def advanceBinds (tree : FileTree Bytes) (slots : List PortableBinding)
    (output : SchoolLaneOutput) : Except String Unit := do
  let index ← context "R1 output has no fixed packet slot"
    (schools.findIdx? (· == output.schoolId))
  let slot ← context "index out of bounds" slots[index]?
  let (packet, bytes, value) ← loadTyped P kind.codec tree slot.artifactRef
  verifyPortableBinding P slot bytes value kind.family "2.0" kind.domain
  bindOutputToPacket P kind.codec output packet kind.domain

/-- `finalize_bundle`, of one output: the packet is the one just built. -/
def finalizeBinds (published : List (Published α)) (output : SchoolLaneOutput) :
    Except String Unit := do
  let found ← context "R2 output has no corresponding packet"
    (published.find? (·.school == output.schoolId))
  bindOutputToPacket P kind.codec output found.packet kind.domain

end code

/-! ### Two texts of one packet -/

section texts

variable {P : Platform} {α : Type} {kind : PacketKind α} {packet : α} {output : SchoolLaneOutput}

/-- Two members out of order. -/
theorem obj_ne_sorted (before after : List (String × Json)) {first next : String}
    (hout : ¬ first ≤ next) (v w : Json) :
    Json.obj (before ++ (first, v) :: (next, w) :: after)
      ≠ (Json.obj (before ++ (first, v) :: (next, w) :: after)).sorted := by
  intro heq
  rw [Json.sorted_obj] at heq
  have hsorted := List.pairwise_insertionSort Json.byName
    ((before ++ (first, v) :: (next, w) :: after).map fun m => (m.1, m.2.sorted))
  rw [← Json.obj.inj heq] at hsorted
  have hrest := (List.pairwise_append.mp hsorted).2.1
  exact hout ((List.pairwise_cons.mp hrest).1 (next, w) List.mem_cons_self)

/-- **The two texts of a packet differ.** -/
theorem valuePretty_ne (kind : PacketKind α) (packet : α) :
    valuePretty (toValue kind.codec packet) ≠ toVecPretty kind.codec packet := by
  intro heq
  exact kind.unsorted packet (Json.write_injective (kind.codec.regular packet)
    (regular_toValue packet) (utf8_injective heq.symm))

/-- What the check of an output says. -/
theorem bindOutputToPacket_ok :
    bindOutputToPacket P kind.codec output packet kind.domain = .ok () ↔
      output.inputPacketExactSha256 = exactDigest P (valuePretty (toValue kind.codec packet)) ∧
      semanticDigest P kind.domain (toValue kind.codec packet)
        = .ok output.inputPacketSemanticSha256 := by
  simp only [bindOutputToPacket, bind_ok, require_ok, beq_iff_eq, exists_unit]
  refine and_congr_right fun _ => ?_
  constructor
  · rintro ⟨semantic, hsemantic, rfl⟩
    exact hsemantic
  · exact fun hsemantic => ⟨_, hsemantic, rfl⟩

end texts

def taskPackets : PacketKind FinanceTaskPacket where
  codec := FinanceTaskPacket.codec
  schema := Schemas.taskPacket
  folder := "packets/r1/"
  family := "task-packet"
  domain := "quinte.finance-task-packet.v2"
  deep := by decide
  ascii := by decide
  unsorted packet :=
    obj_ne_sorted [] _ (by decide : ¬ "task_packet_version" ≤ "run_id")
      (.str packet.taskPacketVersion) (.str packet.runId)

def r2Packets : PacketKind FinanceR2Packet where
  codec := FinanceR2Packet.codec
  schema := Schemas.r2Packet
  folder := "packets/r2/"
  family := "r2-packet"
  domain := "quinte.finance-r2-packet.v2"
  deep := by decide
  ascii := by decide
  unsorted packet :=
    obj_ne_sorted [("packet_version", .str packet.packetVersion)] _
      (by decide : ¬ "run_id" ≤ "recipient_authority") (.str packet.runId)
      (SchoolAuthority.codec.enc packet.recipientAuthority)

/-! ### Loops -/

section loops

variable {P : Platform} {α : Type} {kind : PacketKind α}
  {build : SchoolAuthority → Except String α} {authority : SchoolAuthority}
  {authorities : List SchoolAuthority} {p : Published α} {published : List (Published α)}

theorem publish_ok (h : publish P kind build authority = .ok p) :
    p.school = authority.schoolId ∧ p.bytes = toVecPretty kind.codec p.packet ∧
      bindingFor P (kind.folder ++ authority.schoolId.name ++ ".json") kind.family "2.0" kind.domain
        p.bytes (toValue kind.codec p.packet) = .ok p.binding := by
  simp only [publish, bind_ok, exists_unit, pure_ok] at h
  obtain ⟨packet, -, -, binding, hbinding, rfl⟩ := h
  exact ⟨rfl, rfl, hbinding⟩

theorem forall₂_of_mapM {α β : Type} {f : α → Except String β} {as : List α} {bs : List β}
    (h : as.mapM f = .ok bs) : List.Forall₂ (fun a b => f a = .ok b) as bs := by
  induction as generalizing bs with
  | nil =>
    obtain rfl := pure_ok.mp h
    exact List.Forall₂.nil
  | cons a as ih =>
    simp only [List.mapM_cons, bind_ok, pure_ok] at h
    obtain ⟨b, hb, rest, hrest, rfl⟩ := h
    exact List.Forall₂.cons hb (ih hrest)

theorem exists_of_forall₂ {α β : Type} {R : α → β → Prop} {as : List α} {bs : List β}
    (h : List.Forall₂ R as bs) :
    (∀ a ∈ as, ∃ b ∈ bs, R a b) ∧ ∀ b ∈ bs, ∃ a ∈ as, R a b := by
  induction h with
  | nil => exact ⟨fun _ ha => (nomatch ha), fun _ hb => (nomatch hb)⟩
  | cons hhead _ ih =>
    constructor
    · intro a ha
      rcases List.mem_cons.mp ha with rfl | ha
      · exact ⟨_, List.mem_cons_self, hhead⟩
      · obtain ⟨b, hb, hab⟩ := ih.1 a ha
        exact ⟨b, List.mem_cons_of_mem _ hb, hab⟩
    · intro b hb
      rcases List.mem_cons.mp hb with rfl | hb
      · exact ⟨_, List.mem_cons_self, hhead⟩
      · obtain ⟨a, ha, hab⟩ := ih.2 b hb
        exact ⟨a, List.mem_cons_of_mem _ ha, hab⟩

/-- A profile that is accepted has the five schools in their order. -/
theorem schools_of_validateProfile {profile : FinanceReviewProfile}
    (h : validateProfile profile = .ok ()) : profile.schools.map (·.schoolId) = schools := by
  simp only [validateProfile, bind_ok, exists_unit, require_ok, forM_ok, Bool.and_eq_true,
    beq_iff_eq] at h
  obtain ⟨-, hlength, hsame⟩ := h
  apply List.ext_getElem
  · rw [List.length_map, hlength]
    rfl
  · intro i hi hi'
    rw [List.getElem_map]
    have hlt : i < schoolBindings.length := by rwa [schools, List.length_map] at hi'
    have hlt' : i < profile.schools.length := by rwa [List.length_map] at hi
    have hmem : (schoolBindings[i], profile.schools[i]) ∈ schoolBindings.zip profile.schools := by
      rw [← List.getElem_zip (h := by rw [List.length_zip]; omega)]
      exact List.getElem_mem _
    have heq := (hsame _ hmem).2
    rw [heq]
    simp [schools]

theorem schools_of_publishAll (h : authorities.mapM (publish P kind build) = .ok published) :
    published.map (·.school) = authorities.map (·.schoolId) := by
  have hall := forall₂_of_mapM h
  clear h
  induction hall with
  | nil => rfl
  | cons hp _ ih => rw [List.map_cons, List.map_cons, (publish_ok hp).1, ih]

/-- What was written for one of the schools. -/
theorem publish_of_mem (h : authorities.mapM (publish P kind build) = .ok published)
    (hp : p ∈ published) : ∃ authority, publish P kind build authority = .ok p := by
  obtain ⟨authority, -, hpublish⟩ := (exists_of_forall₂ (forall₂_of_mapM h)).2 p hp
  exact ⟨authority, hpublish⟩

end loops

/-! ### Outputs and files -/

/-- An output of the school that is accepted carries the digest of the file, and
    one that carries it, and the packet's own digest, is accepted. -/
def BindsFile (P : Platform) {α : Type} (accepts : SchoolLaneOutput → Except String Unit)
    (p : Published α) : Prop :=
  ∀ output, output.schoolId = p.school →
    (accepts output = .ok () → output.inputPacketExactSha256 = exactDigest P p.bytes) ∧
    (output.inputPacketExactSha256 = exactDigest P p.bytes →
      output.inputPacketSemanticSha256 = p.binding.semanticSha256 → accepts output = .ok ())

/-- The digest does not tell the two texts of the packet apart. -/
def Collides (P : Platform) {α : Type} (kind : PacketKind α) (packet : α) : Prop :=
  exactDigest P (valuePretty (toValue kind.codec packet))
    = exactDigest P (toVecPretty kind.codec packet)

/-- An output with these digests. -/
def outputWith (school : SchoolId) (exact semantic : String) : SchoolLaneOutput where
  schoolLaneOutputVersion := "1.0"
  runId := ""
  phase := .r1
  schoolId := school
  expectedRouteDigest := ""
  profileDigest := ""
  primaryDigest := ""
  evidenceIndexDigest := ""
  inputPacketExactSha256 := exact
  inputPacketSemanticSha256 := semantic
  decisions := []
  residuals := []

section binding

variable {P : Platform} {α : Type} {kind : PacketKind α}
  {build : SchoolAuthority → Except String α} {authorities : List SchoolAuthority}
  {p : Published α} {published : List (Published α)} {tree : FileTree Bytes}
  {output : SchoolLaneOutput}

theorem bindsFile_iff_collides {authority : SchoolAuthority}
    {accepts : SchoolLaneOutput → Except String Unit}
    (hp : publish P kind build authority = .ok p)
    (haccepts : ∀ output, output.schoolId = p.school → (accepts output = .ok () ↔
      bindOutputToPacket P kind.codec output p.packet kind.domain = .ok ())) :
    BindsFile P accepts p ↔ Collides P kind p.packet := by
  obtain ⟨-, hbytes, hbinding⟩ := publish_ok hp
  obtain ⟨-, semantic, hsemantic, heq⟩ := bindingFor_ok.mp hbinding
  have hsame : p.binding.semanticSha256 = semantic := by rw [heq]
  unfold BindsFile Collides
  rw [← hbytes]
  constructor
  · intro h
    have hout := (h (outputWith p.school (exactDigest P p.bytes) semantic) rfl).2 rfl hsame.symm
    exact (bindOutputToPacket_ok.mp ((haccepts _ rfl).mp hout)).1.symm
  · intro hcollides output hschool
    rw [haccepts output hschool, bindOutputToPacket_ok, hcollides]
    refine ⟨fun h => h.1, fun hexact hout => ⟨hexact, ?_⟩⟩
    rw [hout, hsame]
    exact hsemantic

/-- The school's place in the fixed order. -/
theorem findIdx_schools {i : Nat} (hschools : published.map (·.school) = schools)
    (hi : published[i]? = some p) : schools.findIdx? (· == p.school) = some i := by
  obtain ⟨hlt, hget⟩ := List.getElem?_eq_some_iff.mp hi
  have hlt' : i < schools.length := by rwa [← hschools, List.length_map]
  have hschool : schools[i] = p.school := by
    rw [← hget]
    simp [← hschools]
  have hnodup : schools.Nodup := by decide
  rw [List.findIdx?_eq_some_iff_getElem]
  refine ⟨hlt', by rw [hschool, beq_self_eq_true], ?_⟩
  intro j hj heq
  have hsame : schools[j] = schools[i] := by rw [hschool]; exact eq_of_beq heq
  have hindex := (hnodup.getElem_inj_iff).mp hsame
  omega

theorem eq_of_school {q : Published α} (hschools : published.map (·.school) = schools)
    (hp : p ∈ published) (hq : q ∈ published) (h : q.school = p.school) : q = p := by
  have hnodup : (published.map (·.school)).Nodup := by rw [hschools]; decide
  exact List.inj_on_of_nodup_map hnodup hq hp h

/-- The packet comes back from its file. -/
theorem loadTyped_published {authority : SchoolAuthority}
    (hp : publish P kind build authority = .ok p)
    (hfile : tree.file p.binding.artifactRef = some p.bytes) :
    loadTyped P kind.codec tree p.binding.artifactRef
      = .ok (p.packet, p.bytes, toValue kind.codec p.packet) := by
  obtain ⟨-, hbytes, -⟩ := publish_ok hp
  refine loadTyped_ok.mpr ⟨hfile, ?_, kind.codec.dec_enc p.packet⟩
  rw [hbytes]
  exact parseStrictJson_toVecPretty kind.deep p.packet

theorem verify_published {authority : SchoolAuthority}
    (hp : publish P kind build authority = .ok p) :
    verifyPortableBinding P p.binding p.bytes (toValue kind.codec p.packet) kind.family "2.0"
      kind.domain = .ok () := by
  obtain ⟨-, -, hbinding⟩ := publish_ok hp
  obtain ⟨hpath, semantic, hsemantic, heq⟩ := bindingFor_ok.mp hbinding
  rw [verifyPortableBinding_ok, heq]
  refine ⟨hpath, ⟨rfl, rfl, rfl, ?_⟩, rfl, hsemantic⟩
  intro hfamily
  exact if_pos hfamily

/-- `dormant_advance` comes to the check with the packet of the output's school. -/
theorem advanceBinds_iff (h : authorities.mapM (publish P kind build) = .ok published)
    (hschools : authorities.map (·.schoolId) = schools) (hp : p ∈ published)
    (hfile : tree.file p.binding.artifactRef = some p.bytes)
    (hschool : output.schoolId = p.school) :
    advanceBinds P kind tree (published.map (·.binding)) output = .ok () ↔
      bindOutputToPacket P kind.codec output p.packet kind.domain = .ok () := by
  obtain ⟨i, hi⟩ := List.mem_iff_getElem?.mp hp
  obtain ⟨authority, hpublish⟩ := publish_of_mem h hp
  have hindex := findIdx_schools ((schools_of_publishAll h).trans hschools) hi
  have hslot : (published.map (·.binding))[i]? = some p.binding := by
    rw [List.getElem?_map, hi, Option.map_some]
  unfold advanceBinds
  rw [hschool, hindex]
  simp only [context, bind_ok, Except.ok.injEq, exists_eq_left', hslot,
    loadTyped_published hpublish hfile, verify_published hpublish, exists_unit, true_and]

/-- `finalize_bundle` comes to the check with the packet of the output's school. -/
theorem finalizeBinds_iff (h : authorities.mapM (publish P kind build) = .ok published)
    (hschools : authorities.map (·.schoolId) = schools) (hp : p ∈ published)
    (hschool : output.schoolId = p.school) :
    finalizeBinds P kind published output = .ok () ↔
      bindOutputToPacket P kind.codec output p.packet kind.domain = .ok () := by
  have hsome : (published.find? (·.school == output.schoolId)).isSome := by
    rw [List.find?_isSome]
    exact ⟨p, hp, by rw [hschool, beq_self_eq_true]⟩
  obtain ⟨q, hq⟩ := Option.isSome_iff_exists.mp hsome
  have hsame : q = p := by
    apply eq_of_school ((schools_of_publishAll h).trans hschools) hp (List.mem_of_find?_eq_some hq)
    have hfound := List.find?_some hq
    rw [← hschool]
    exact eq_of_beq hfound
  subst hsame
  unfold finalizeBinds
  rw [hq]
  simp only [context, bind_ok, Except.ok.injEq, exists_eq_left']

/-- What holds of every packet that was written. -/
theorem bindsFile_of_mem (h : authorities.mapM (publish P kind build) = .ok published)
    (hschools : authorities.map (·.schoolId) = schools) (hp : p ∈ published)
    (hfile : tree.file p.binding.artifactRef = some p.bytes) :
    (BindsFile P (advanceBinds P kind tree (published.map (·.binding))) p
      ↔ Collides P kind p.packet) ∧
    (BindsFile P (finalizeBinds P kind published) p ↔ Collides P kind p.packet) ∧
    p.binding.exactSha256 = exactDigest P p.bytes ∧
    valuePretty (toValue kind.codec p.packet) ≠ p.bytes := by
  obtain ⟨authority, hpublish⟩ := publish_of_mem h hp
  obtain ⟨-, hbytes, hbinding⟩ := publish_ok hpublish
  obtain ⟨-, semantic, -, heq⟩ := bindingFor_ok.mp hbinding
  refine ⟨?_, ?_, by rw [heq], hbytes ▸ valuePretty_ne kind p.packet⟩
  · exact bindsFile_iff_collides hpublish fun output hschool =>
      advanceBinds_iff h hschools hp hfile hschool
  · exact bindsFile_iff_collides hpublish fun output hschool =>
      finalizeBinds_iff h hschools hp hschool

end binding

/-- **Outputs do not bind the files of their packets**: whatever packets are
    written for a run, in either phase, an accepted output carries the digest of
    its packet's file exactly if the digest takes two different texts to one. -/
theorem bindsFile_iff (P : Platform) (policy : FinancePolicy) (run : RunBindings)
    (profile : FinanceReviewProfile) (hprofile : validateProfile profile = .ok ())
    (tree : FileTree Bytes) :
    (∀ published, profile.schools.mapM (publish P taskPackets (r1PacketOf P policy run))
        = .ok published →
      ∀ p ∈ published, tree.file p.binding.artifactRef = some p.bytes →
        (BindsFile P (advanceBinds P taskPackets tree (published.map (·.binding))) p
          ↔ Collides P taskPackets p.packet) ∧
        (BindsFile P (finalizeBinds P taskPackets published) p
          ↔ Collides P taskPackets p.packet) ∧
        p.binding.exactSha256 = exactDigest P p.bytes ∧
        valuePretty (toValue taskPackets.codec p.packet) ≠ p.bytes) ∧
    ∀ claims r1 r1Bindings published,
      profile.schools.mapM (publish P r2Packets (r2PacketOf P policy run claims r1 r1Bindings))
        = .ok published →
      ∀ p ∈ published, tree.file p.binding.artifactRef = some p.bytes →
        (BindsFile P (advanceBinds P r2Packets tree (published.map (·.binding))) p
          ↔ Collides P r2Packets p.packet) ∧
        (BindsFile P (finalizeBinds P r2Packets published) p ↔ Collides P r2Packets p.packet) ∧
        p.binding.exactSha256 = exactDigest P p.bytes ∧
        valuePretty (toValue r2Packets.codec p.packet) ≠ p.bytes := by
  have hschools := schools_of_validateProfile hprofile
  constructor
  · intro published h p hp hfile
    exact bindsFile_of_mem h hschools hp hfile
  · intro claims r1 r1Bindings published h p hp hfile
    exact bindsFile_of_mem h hschools hp hfile

/-! ### The packets of one run -/

theorem enc_taskPacket (packet : FinanceTaskPacket) :
    FinanceTaskPacket.codec.enc packet
      = .obj [("task_packet_version", .str packet.taskPacketVersion), ("run_id", .str packet.runId),
          ("phase", FinancePhase.codec.enc packet.phase),
          ("invocation", PortableBinding.codec.enc packet.invocation),
          ("policy", PortableBinding.codec.enc packet.policy),
          ("profile", PortableBinding.codec.enc packet.profile),
          ("claim_manifest", PortableBinding.codec.enc packet.claimManifest),
          ("primary", PortableBinding.codec.enc packet.primary),
          ("evidence_index", PortableBinding.codec.enc packet.evidenceIndex),
          ("recipient_route_digest", .str packet.recipientRouteDigest),
          ("authority", SchoolAuthority.codec.enc packet.authority)] :=
  rfl

/-- The packet of a school for R1 is accepted with its parts. -/
theorem accepts_buildR1Packet (run : RunBindings) (digest : String) (authority : SchoolAuthority)
    (hrun : run.runId ≠ "")
    (hbindings : ∀ binding ∈ [run.invocation, run.policy, run.profile, run.claimManifest,
      run.primary, run.evidenceIndex], binding.wellFormed = true)
    (hdigest : isDigest digest = true)
    (hauthority : Schemas.authority.accepts (SchoolAuthority.codec.enc authority) = true) :
    Schemas.taskPacket.accepts (toValue FinanceTaskPacket.codec (buildR1Packet run.runId
      run.invocation run.policy run.profile run.claimManifest run.primary run.evidenceIndex digest
      authority)) = true := by
  rw [accepts_toValue, enc_taskPacket]
  have hphase : (Json.Schema.oneOfTexts ["R1"]).accepts (FinancePhase.codec.enc .r1) = true := by
    decide
  simp only [List.mem_cons, List.not_mem_nil, or_false, forall_eq_or_imp, forall_eq] at hbindings
  simp [Schemas.taskPacket, Json.Schema.record, Json.Schema.allOf, Json.Schema.isObject,
    Json.Schema.required, Json.Schema.closed, Json.Schema.properties, List.lookup, hrun,
    hbindings, accepts_binding, hdigest, hauthority, buildR1Packet, accepts_constant, hphase,
    financePacketVersion]

def boundInput : PortableBinding where
  artifactRef := "input"
  contractFamily := "input"
  schemaId := none
  revision := "1.0"
  exactSha256 := digestOf 'e'
  semanticDomain := "input"
  semanticSha256 := digestOf 'f'

def arbiterNamed (role : String) : FinanceArbiterRoute where
  arbiterRole := role
  routeId := role
  family := "family"
  provider := "provider"
  model := "model"

def routedSchool (party : String) (school : SchoolId) : FinanceSchoolRoute where
  partyId := party
  schoolId := school
  routeId := school.name
  family := "family"
  provider := "provider"
  model := "model"

def routedPolicy : FinancePolicy where
  policyVersion := "3.0"
  protocolVersion := "2.0"
  profile := boundInput
  schoolBindings := schoolBindings.map fun (party, school) => routedSchool party school
  counterpartArbiter := arbiterNamed "counterpart_arbiter"
  primaryArbiter := arbiterNamed "primary_arbiter"
  isolationBackend := "process_information_flow_v1"
  sameFamilyRequired := true

def routedProfile : FinanceReviewProfile where
  financeReviewProfileVersion := "1.0"
  profileId := "profile"
  schools := schoolBindings.map fun (party, school) => {
    partyId := party
    schoolId := school
    acceptedEvidenceClasses := []
    forbiddenClaimClasses := []
    questionCodes := [] }
  allowedPrimaryContracts := []
  applicabilityPredicateCodes := []
  closureRuleCodes := []
  hashDomains := []

def boundRun : RunBindings where
  runId := "run"
  invocation := boundInput
  policy := boundInput
  profile := boundInput
  claimManifest := boundInput
  primary := boundInput
  evidenceIndex := boundInput

/-- The digests of the routes are digests; no two texts have the same. -/
def routedPlatform : Platform :=
  .assigning (List.zipWith (fun (party, school) c =>
    (asBytes "quinte.finance-route-binding.v1"
      ++ 0 :: canonical FinanceSchoolRoute.codec (routedSchool party school), digestOf c))
    schoolBindings ['0', '1', '2', '3', '4'])

theorem routedPlatform_injective : Function.Injective routedPlatform.sha256 := by
  have hne : ∀ {c d}, c ≠ d → digestOf c ≠ digestOf d := fun h heq => h (digestOf_injective heq)
  have hhead : ∀ c, (digestOf c).toList.head? ≠ some '=' := fun c => by
    have hfirst : "sha256:".toList.head? = some 's' := rfl
    rw [toList_digestOf, List.head?_append, hfirst]
    simp
  refine Platform.assigning_injective ?_ ?_
  · simp [schoolBindings, hne]
  · simp [schoolBindings, hhead]

theorem digest_routed : ∀ authority ∈ routedProfile.schools,
    (routeDigest routedPlatform routedPolicy authority).toOption.any isDigest = true := by
  decide +kernel

theorem authority_routed : ∀ authority ∈ routedProfile.schools,
    Schemas.authority.accepts (SchoolAuthority.codec.enc authority) = true := by
  decide

theorem path_routed : ∀ authority ∈ routedProfile.schools,
    portableRelativePath ("packets/r1/" ++ authority.schoolId.name ++ ".json") = true := by
  decide +kernel

theorem publish_routed {authority : SchoolAuthority} (h : authority ∈ routedProfile.schools) :
    ∃ p, publish routedPlatform taskPackets (r1PacketOf routedPlatform routedPolicy boundRun)
      authority = .ok p := by
  obtain ⟨digest, hdigest, hshape⟩ := (Option.any_eq_true _ _).mp (digest_routed authority h)
  have hroute : routeDigest routedPlatform routedPolicy authority = .ok digest := by
    cases hresult : routeDigest routedPlatform routedPolicy authority with
    | error e => rw [hresult] at hdigest; cases hdigest
    | ok d => rw [hresult] at hdigest; exact congrArg Except.ok (Option.some.inj hdigest)
  have haccepts := accepts_buildR1Packet boundRun digest authority (by decide) (by decide) hshape
    (authority_routed authority h)
  generalize hpacket : buildR1Packet boundRun.runId boundRun.invocation boundRun.policy
    boundRun.profile boundRun.claimManifest boundRun.primary boundRun.evidenceIndex digest
    authority = packet at haccepts
  have hsemantic := semanticDigest_toValue (P := routedPlatform) (C := taskPackets.codec)
    taskPackets.ascii packet
  obtain ⟨binding, hbinding⟩ : ∃ binding, bindingFor routedPlatform
      (taskPackets.folder ++ authority.schoolId.name ++ ".json") taskPackets.family "2.0"
      taskPackets.domain (toVecPretty taskPackets.codec packet) (toValue taskPackets.codec packet)
      = .ok binding :=
    ⟨_, bindingFor_ok.mpr ⟨path_routed authority h, _, hsemantic, rfl⟩⟩
  refine ⟨⟨authority.schoolId, packet, toVecPretty taskPackets.codec packet, binding⟩, ?_⟩
  simp only [publish, r1PacketOf, hroute, bind_ok, exists_unit, pure_ok, Except.ok.injEq,
    exists_eq_left', Schemas.validateValue_ok, hpacket]
  exact ⟨haccepts, binding, hbinding, rfl⟩

theorem exists_mapM {α β : Type} {f : α → Except String β} {as : List α}
    (h : ∀ a ∈ as, ∃ b, f a = .ok b) : ∃ bs, as.mapM f = .ok bs := by
  induction as with
  | nil => exact ⟨[], rfl⟩
  | cons a as ih =>
    obtain ⟨b, hb⟩ := h a List.mem_cons_self
    obtain ⟨bs, hbs⟩ := ih fun a' ha' => h a' (List.mem_cons_of_mem a ha')
    exact ⟨b :: bs, by rw [List.mapM_cons, hb, hbs]; rfl⟩

/-- With digests that tell all texts apart, no output of the run binds its file:
    one that carries the file's digest, and the packet's own, is rejected. -/
theorem bindsFile_fails : ∃ published,
    routedProfile.schools.mapM (publish routedPlatform taskPackets
      (r1PacketOf routedPlatform routedPolicy boundRun)) = .ok published ∧
    published.length = 5 ∧
    ∀ p ∈ published, ¬ BindsFile routedPlatform
      (finalizeBinds routedPlatform taskPackets published) p := by
  obtain ⟨published, h⟩ := exists_mapM fun _ => publish_routed
  refine ⟨published, h, (forall₂_of_mapM h).length_eq.symm, ?_⟩
  intro p hp hbinds
  obtain ⟨authority, hpublish⟩ := publish_of_mem h hp
  have hiff := bindsFile_iff_collides hpublish fun _ hschool => finalizeBinds_iff h rfl hp hschool
  exact valuePretty_ne taskPackets p.packet (routedPlatform_injective (hiff.mp hbinds))

theorem bindsFile_iff_sample : ∃ (published : List (Published FinanceTaskPacket)) (p : _),
    p ∈ published ∧ validateProfile routedProfile = .ok () ∧
    (BindsFile routedPlatform (finalizeBinds routedPlatform taskPackets published) p
      ↔ Collides routedPlatform taskPackets p.packet) := by
  obtain ⟨published, h⟩ := exists_mapM fun _ => publish_routed
  cases published with
  | nil => exact nomatch (forall₂_of_mapM h).length_eq
  | cons p rest =>
    have hfile : (FileTree.empty.write p.binding.artifactRef p.bytes).file p.binding.artifactRef
        = some p.bytes := by
      simp [FileTree.write]
    have hprofile : validateProfile routedProfile = .ok () := by decide
    have hiff := (bindsFile_iff routedPlatform routedPolicy boundRun routedProfile hprofile
      (FileTree.empty.write p.binding.artifactRef p.bytes)).1 (p :: rest) h p List.mem_cons_self
      hfile
    exact ⟨p :: rest, p, List.mem_cons_self, hprofile, hiff.2.1⟩

end Quinte.Finance
