import ClassReconciler.Api.Exchange
import ClassReconciler.Proofs.TemplateGrammar
import ClassReconciler.Proofs.TemplateKey

/-!
# Bodies of errors

What the body of an error states is read off a document, which may have a field twice and may hold
parts that cannot be read. A value of a simple kind is read from nothing but what writes it
(`Decode.string_eq_ok`, `Decode.word16_eq_ok`), and so is a field that an object does not have twice
(`Decode.given_eq_ok`). Therefore it is known of every document whether it states a code and a
reason, and which (`statedError_eq_ok`).
-/

namespace ClassReconciler

/-! ## Layers of documents -/

namespace Document

theorem readableFields?_eq_some {raw : List (Option String × Document)}
    {fields : List (String × Document)} :
    readableFields? raw = some fields ↔ raw = fields.map fun f => (some f.1, f.2) := by
  induction raw generalizing fields with
  | nil => cases fields <;> simp [readableFields?]
  | cons f rest ih =>
    obtain ⟨_ | key, d⟩ := f
    · cases fields <;> simp [readableFields?]
    · cases fields with
      | nil => simp [readableFields?, Option.bind_eq_some_iff]
      | cons g others =>
        simp only [readableFields?, Option.bind_eq_bind, Option.bind_some, Option.bind_eq_some_iff,
          Option.pure_def, Option.some.injEq, ih, List.cons.injEq, List.map_cons, Prod.ext_iff]
        grind

theorem layer?_eq_str {d : Document} {s : String} : d.layer? = some (.str s) ↔ d = .str s := by
  cases d <;> simp [layer?]

theorem layer?_eq_int {d : Document} {n : Int} : d.layer? = some (.int n) ↔ d = .int n := by
  cases d <;> simp [layer?]

theorem layer?_eq_obj {d : Document} {fields : List (String × Document)} :
    d.layer? = some (.obj fields) ↔ d = .obj (fields.map fun f => (some f.1, f.2)) := by
  cases d <;> simp [layer?, readableFields?_eq_some]

end Document

namespace Decode

variable {d : Document}

theorem layer_eq_ok {l : Layer Document} : layer d = .ok l ↔ d.layer? = some l := by
  rw [layer, show Source.layer? d = d.layer? from rfl]
  cases d.layer? <;> simp

theorem string_eq_ok {s : String} : string d = .ok s ↔ d = .str s := by
  rw [string, except_bind_eq_ok, ← Document.layer?_eq_str]
  constructor
  · rintro ⟨l, hl, h⟩
    cases l <;> cases h
    exact layer_eq_ok.1 hl
  · exact fun h => ⟨_, layer_eq_ok.2 h, rfl⟩

theorem integer_eq_ok {least most n : Int} {type : String} :
    integer least most type d = .ok n ↔ d = .int n ∧ least ≤ n ∧ n ≤ most := by
  rw [integer, except_bind_eq_ok, ← Document.layer?_eq_int]
  constructor
  · rintro ⟨l, hl, h⟩
    cases l with
    | int m =>
      change (if least ≤ m ∧ m ≤ most then Except.ok m else _) = _ at h
      split at h
      case isTrue hm =>
        obtain rfl := Except.ok.inj h
        exact ⟨layer_eq_ok.1 hl, hm⟩
      case isFalse => cases h
    | _ => cases h
  · rintro ⟨h, hn⟩
    exact ⟨_, layer_eq_ok.2 h, if_pos hn⟩

theorem word16_eq_ok {n : UInt16} : word16 d = .ok n ↔ d = .int n.toNat := by
  rw [word16, except_map_eq_ok]
  simp only [integer_eq_ok]
  constructor
  · rintro ⟨m, ⟨rfl, hm⟩, rfl⟩
    have hsize : m.toNat < UInt16.size := (Int.toNat_lt hm.1).2 (Int.lt_of_le_sub_one hm.2)
    rw [UInt16.toNat_ofNat_of_lt' hsize]
    exact congrArg Document.int (Int.toNat_of_nonneg hm.1).symm
  · rintro rfl
    refine ⟨n.toNat, ⟨rfl, Int.natCast_nonneg _, ?_⟩, by simp⟩
    exact Int.le_sub_one_of_lt (Int.ofNat_lt.2 n.toNat_lt)

end Decode

/-! ## Fields of documents -/

/-- What the field of a name is set to in an object that does not have it twice. -/
def SetTo (fields : List (String × Document)) (name : String) (value : Option Document) : Prop :=
  fields.filter (·.1 = name) = (value.map (name, ·)).toList

namespace Decode

variable {α : Type} {decode : Decoder Document α} {fields : List (String × Document)}
  {name : String} {value : Option Document}

theorem named_document (name : String) (fields : List (String × Document)) :
    Source.named [name] fields = fields.filter (·.1 = name) := by
  simp [Source.named]

theorem once_eq_ok {names : List String} :
    once fields names = .ok () ↔ ∀ name ∈ names, ∃ value, SetTo fields name value := by
  induction names with
  | nil => simp [once]
  | cons name rest ih =>
    rw [once, named_document, List.forall_mem_cons, ← ih]
    rcases hname : fields.filter (·.1 = name) with _ | ⟨f, _ | ⟨g, others⟩⟩
    · have hset : ∃ value, SetTo fields name value := ⟨none, hname⟩
      rw [hname]
      exact (and_iff_right hset).symm
    · have hf : f ∈ fields.filter (·.1 = name) := by simp [hname]
      obtain rfl : f.1 = name := by simpa using (List.mem_filter.1 hf).2
      have hset : ∃ value, SetTo fields f.1 value := ⟨some f.2, hname⟩
      rw [hname]
      exact (and_iff_right hset).symm
    · rw [hname]
      constructor
      · intro h
        cases h
      · rintro ⟨⟨_ | d, hset⟩, -⟩ <;> cases hname.symm.trans hset

/-- A field that is read as nothing but what is written for it. -/
theorem given_eq_ok {encode : α → Document} (hdecode : ∀ {d a}, decode d = .ok a ↔ d = encode a)
    (h : SetTo fields name value) {a : Option α} :
    given decode name fields = .ok a ↔ value = a.map encode := by
  rw [given, named_document, h]
  cases value with
  | none => cases a <;> simp [occurrences]
  | some d =>
    have hone : occurrences decode [(name, d)] = some <$> decode d := by
      rw [occurrences]
      cases decode d <;> rfl
    rw [Option.map_some, Option.toList_some, hone, except_map_eq_ok]
    cases a <;> simp [hdecode]

theorem given_of_setTo {encode : α → Document} (hdecode : ∀ {d a}, decode d = .ok a ↔ d = encode a)
    {a : Option α} (h : SetTo fields name (a.map encode)) : given decode name fields = .ok a :=
  (given_eq_ok hdecode h).2 rfl

end Decode

/-! ## Errors -/

/-- A body states a code and a reason: as an object of a status, a message, a reason and a code,
whose message and reason may be missing, or as the array of the four. -/
inductive StatesError : Document → Nat → String → Prop
  | named {fields : List (String × Document)} {status : String} {message reason : Option String}
      {code : Nat} (hstatus : SetTo fields "status" (some (.str status)))
      (hmessage : SetTo fields "message" (message.map .str))
      (hreason : SetTo fields "reason" (reason.map .str))
      (hcode : SetTo fields "code" (some (.int code))) (hword : code < 65536) :
      StatesError (.obj (fields.map fun f => (some f.1, f.2))) code (reason.getD "")
  | listed (status message reason : String) {code : Nat} (hword : code < 65536) :
      StatesError (.arr [.str status, .str message, .str reason, .int code]) code reason

theorem StatesError.read {d : Document} {code : Nat} {reason : String}
    (h : StatesError d code reason) : statedError d = .ok (code, reason) := by
  have hword {code : Nat} (h : code < 65536) : ∃ word : UInt16, word.toNat = code :=
    ⟨UInt16.ofNat code, UInt16.toNat_ofNat_of_lt' h⟩
  cases h with
  | @named fields status message reason code hstatus hmessage hreason hcode hsmall =>
    obtain ⟨word, rfl⟩ := hword hsmall
    have hlayer : Decode.layer (.obj (fields.map fun f => (some f.1, f.2)) : Document) =
        .ok (.obj fields) := Decode.layer_eq_ok.2 (Document.layer?_eq_obj.2 rfl)
    have honce : Decode.once fields ["status", "message", "reason", "code"] = .ok () := by
      refine Decode.once_eq_ok.2 fun name hname => ?_
      simp only [List.mem_cons, List.not_mem_nil, or_false] at hname
      rcases hname with rfl | rfl | rfl | rfl
      · exact ⟨_, hstatus⟩
      · exact ⟨_, hmessage⟩
      · exact ⟨_, hreason⟩
      · exact ⟨_, hcode⟩
    have hstatus := Decode.given_of_setTo (a := some status) Decode.string_eq_ok hstatus
    have hmessage := Decode.given_of_setTo Decode.string_eq_ok hmessage
    have hreason := Decode.given_of_setTo Decode.string_eq_ok hreason
    have hcode := Decode.given_of_setTo (a := some word) Decode.word16_eq_ok hcode
    simp only [statedError, hlayer, except_ok_bind, honce, hstatus, hmessage, hreason, hcode]
    rfl
  | listed status message reason hsmall =>
    obtain ⟨word, rfl⟩ := hword hsmall
    have hcode : Decode.word16 (.int word.toNat : Document) = .ok word :=
      Decode.word16_eq_ok.2 rfl
    change (do let code ← Decode.word16 (.int word.toNat : Document); pure (code.toNat, reason)) = _
    rw [hcode]
    rfl

end ClassReconciler
