import Mathlib

/-! # A log of framed records

    Records are appended to a file, each as its text followed by a separator
    that no text contains.  A write can stop at any byte, so the file is the
    log of the complete records and a prefix of one more frame.

    A reader takes what lies before the last separator for the complete
    records (`records`) and what comes after it for the torn one (`tail`).
    Main results, for a codec in which no proper prefix of a text is a text:

    * `records_log_append`, `tail_log_append`: the reader finds exactly the
      complete records, and exactly the torn text;
    * `decode_of_prefix`: the torn text is a record only if it is whole;
    * `recover_torn`: a reader that repairs the end of the file has the torn
      record or does not have it, and leaves a log of complete records;
    * `lawful_ofEncode`: every self-delimiting encoding is such a codec.
-/

namespace FramedLog

variable {α β : Type}

structure Codec (α β : Type) where
  encode : α → List β
  decode : List β → Option α

/-- What the log needs of the texts of its records. -/
structure Codec.Lawful (C : Codec α β) (sep : β) : Prop where
  decode_encode : ∀ a, C.decode (C.encode a) = some a
  sep_free : ∀ a, sep ∉ C.encode a
  nonempty : ∀ a, C.encode a ≠ []
  prefix_free : ∀ a p, p <+: C.encode a → p ≠ C.encode a → C.decode p = none

/-- The log of complete records. -/
def log (C : Codec α β) (sep : β) (as : List α) : List β :=
  as.flatMap fun a => C.encode a ++ [sep]

@[simp] theorem log_nil (C : Codec α β) (sep : β) : log C sep [] = [] := rfl

@[simp] theorem log_cons (C : Codec α β) (sep : β) (a : α) (as : List α) :
    log C sep (a :: as) = C.encode a ++ sep :: log C sep as := by
  simp [log]

@[simp] theorem log_append (C : Codec α β) (sep : β) (as as' : List α) :
    log C sep (as ++ as') = log C sep as ++ log C sep as' := by
  simp [log]

/-! ### Reading -/

variable [DecidableEq β]

/-- The file up to its last separator. -/
def committed (sep : β) (bytes : List β) : List β :=
  bytes.rdropWhile (· != sep)

/-- The file after its last separator. -/
def tail (sep : β) (bytes : List β) : List β :=
  bytes.rtakeWhile (· != sep)

/-- The records before the last separator; empty lines are skipped. -/
def records (C : Codec α β) (sep : β) (bytes : List β) : Option (List α) :=
  (((committed sep bytes).splitOn sep).filter (· ≠ [])).mapM C.decode

variable {C : Codec α β} {sep : β}

theorem committed_log (as : List α) : committed sep (log C sep as) = log C sep as := by
  rcases List.eq_nil_or_concat' as with rfl | ⟨as', a, rfl⟩
  · rfl
  · rw [log_append, log_cons, log_nil, ← List.append_assoc]
    exact List.rdropWhile_concat_neg _ _ _ (by simp)

theorem committed_append {bytes p : List β} (hp : sep ∉ p) :
    committed sep (bytes ++ p) = committed sep bytes := by
  induction p using List.reverseRecOn with
  | nil => rw [List.append_nil]
  | append_singleton p x ih =>
    have hx : x ≠ sep := fun h => hp (by simp [h])
    have hp' : sep ∉ p := fun h => hp (List.mem_append_left _ h)
    rw [← List.append_assoc]
    exact (List.rdropWhile_concat_pos _ _ _ (by simpa using hx)).trans (ih hp')

theorem committed_log_append (as : List α) {p : List β} (hp : sep ∉ p) :
    committed sep (log C sep as ++ p) = log C sep as :=
  (committed_append hp).trans (committed_log as)

theorem committed_append_tail (bytes : List β) :
    committed sep bytes ++ tail sep bytes = bytes :=
  List.rdropWhile_append_rtakeWhile

/-- The reader finds the torn text. -/
theorem tail_log_append (as : List α) {p : List β} (hp : sep ∉ p) :
    tail sep (log C sep as ++ p) = p := by
  have hsplit : committed sep (log C sep as ++ p) ++ tail sep (log C sep as ++ p) = _ :=
    committed_append_tail _
  rw [committed_log_append as hp] at hsplit
  exact List.append_cancel_left hsplit

theorem splitOn_frame {text rest : List β} (h : sep ∉ text) :
    (text ++ sep :: rest).splitOn sep = text :: rest.splitOn sep := by
  refine List.splitOnP_append_cons_of_forall_mem ?_ sep ?_ rest
  · intro x hx
    have hne : x ≠ sep := fun heq => h (heq ▸ hx)
    simpa using hne
  · simp

/-- The reader finds the complete records. -/
theorem records_log_append (hC : C.Lawful sep) (as : List α) {p : List β} (hp : sep ∉ p) :
    records C sep (log C sep as ++ p) = some as := by
  have hlines : ∀ as : List α, ((log C sep as).splitOn sep).filter (· ≠ []) = as.map C.encode := by
    intro as
    induction as with
    | nil => simp
    | cons a as ih =>
      rw [log_cons, splitOn_frame (hC.sep_free a), List.filter_cons_of_pos (by simpa using hC.nonempty a),
        ih, List.map_cons]
  have hdecode : ∀ as : List α, (as.map C.encode).mapM C.decode = some as := by
    intro as
    induction as with
    | nil => rfl
    | cons a as ih => simp [hC.decode_encode a, ih]
  rw [records, committed_log_append as hp, hlines, hdecode]

/-- A prefix of a text is a record only if it is the whole text. -/
theorem decode_of_prefix (hC : C.Lawful sep) {a : α} {p : List β} (hp : p <+: C.encode a) :
    C.decode p = if p = C.encode a then some a else none := by
  split
  case isTrue h => rw [h, hC.decode_encode]
  case isFalse h => exact hC.prefix_free a p hp h

/-! ### Recovery -/

/-- Read the log and repair its end: a whole text without its separator is a
    record, and anything else after the last separator goes. -/
def recover (C : Codec α β) (sep : β) (bytes : List β) : Option (List α) × List β :=
  match records C sep bytes with
  | none => (none, bytes)
  | some as =>
      if tail sep bytes = [] then (some as, bytes)
      else match C.decode (tail sep bytes) with
        | some a => (some (as ++ [a]), bytes ++ [sep])
        | none => (some as, committed sep bytes)

/-- Nothing is to be repaired. -/
theorem recover_log (hC : C.Lawful sep) (as : List α) :
    recover C sep (log C sep as) = (some as, log C sep as) := by
  have hnone : sep ∉ ([] : List β) := List.not_mem_nil
  have hrecords := records_log_append hC as hnone
  have htail := tail_log_append (C := C) as hnone
  rw [List.append_nil] at hrecords htail
  rw [recover, hrecords, htail]
  rfl

/-- A whole text gets its separator. -/
theorem recover_whole (hC : C.Lawful sep) (as : List α) (a : α) :
    recover C sep (log C sep as ++ C.encode a)
      = (some (as ++ [a]), log C sep (as ++ [a])) := by
  have hfree := hC.sep_free a
  rw [recover, records_log_append hC as hfree, tail_log_append as hfree]
  simp only [if_neg (hC.nonempty a), hC.decode_encode a]
  rw [log_append, log_cons, log_nil, List.append_assoc]

/-- A text that breaks off goes. -/
theorem recover_broken (hC : C.Lawful sep) (as : List α) {a : α} {p : List β}
    (hp : p <+: C.encode a) (hne : p ≠ C.encode a) :
    recover C sep (log C sep as ++ p) = (some as, log C sep as) := by
  have hfree : sep ∉ p := fun hmem => hC.sep_free a (hp.subset hmem)
  rw [recover, records_log_append hC as hfree, tail_log_append as hfree]
  by_cases hnil : p = []
  · subst hnil
    simp only [if_true, List.append_nil]
  · simp only [if_neg hnil, hC.prefix_free a p hp hne, committed_log_append as hfree]

/-- **A torn append**: the record is in the log or it is not. -/
theorem recover_torn (hC : C.Lawful sep) (as : List α) {a : α} {p : List β}
    (hp : p <+: C.encode a ++ [sep]) :
    recover C sep (log C sep as ++ p) = (some as, log C sep as) ∨
      recover C sep (log C sep as ++ p) = (some (as ++ [a]), log C sep (as ++ [a])) := by
  rcases List.prefix_concat_iff.mp hp with hframe | hpart
  · have hlog : log C sep as ++ p = log C sep (as ++ [a]) := by
      rw [hframe, log_append, log_cons, log_nil]
    exact Or.inr (hlog ▸ recover_log hC (as ++ [a]))
  · by_cases hwhole : p = C.encode a
    · exact Or.inr (hwhole ▸ recover_whole hC as a)
    · exact Or.inl (recover_broken hC as hpart hwhole)

/-! ### Self-delimiting encodings -/

omit [DecidableEq β]

/-- From a text and what follows it, the record can be told. -/
def SelfDelimiting (encode : α → List β) : Prop :=
  ∀ a b u v, encode a ++ u = encode b ++ v → a = b

/-- Decoding by search. -/
noncomputable def Codec.ofEncode (encode : α → List β) : Codec α β where
  encode := encode
  decode text := by
    classical
    exact if h : ∃ a, encode a = text then some h.choose else none

/-- Every self-delimiting encoding is a lawful codec. -/
theorem lawful_ofEncode {encode : α → List β} (hself : SelfDelimiting encode)
    (hsep : ∀ a, sep ∉ encode a) (hne : ∀ a, encode a ≠ []) :
    (Codec.ofEncode encode).Lawful sep := by
  have hinj : ∀ a b, encode a = encode b → a = b := fun a b h => hself a b [] [] (by rw [h])
  refine ⟨fun a => ?_, hsep, hne, fun a p hp hne' => ?_⟩
  · have hex : ∃ b, encode b = encode a := ⟨a, rfl⟩
    exact (dif_pos hex).trans (congrArg some (hinj _ _ hex.choose_spec))
  · refine dif_neg ?_
    rintro ⟨b, rfl⟩
    obtain ⟨u, hu⟩ := hp
    obtain rfl := hself b a u [] (hu.trans (List.append_nil _).symm)
    exact hne' rfl

end FramedLog
