import Mathlib.Data.List.TakeWhile
import ClassReconciler.Api.Request

/-!
# Targets of requests

A target has a path, a query and a fragment (`exists_targetParts`). It is sent without the fragment,
and only if the characters of the others may stand there (`requestTarget?_eq_some`), so that it is
known which requests there are (`request?_eq_some`). A path whose characters fit is sent as it is
(`sentAs_path`), and so is one with a query behind it (`sentAs_query`), where what is encoded for a
form always fits (`fitsQuery_formEncoded`).
-/

namespace ClassReconciler

/-! ## Characters -/

/-- A character that may stand in a path and does not end it. -/
def PathChar (c : Char) : Prop := 0x21 ≤ c.toNat ∧ c ∉ ['#', '<', '>', '?', '\x60', '\x7f']

/-- A character that may stand in a query and does not end it. -/
def QueryChar (c : Char) : Prop := 0x21 ≤ c.toNat ∧ c ∉ ['"', '#', '<', '>', '\x7f']

instance : DecidablePred PathChar := fun _ => inferInstanceAs (Decidable (_ ∧ _))

instance : DecidablePred QueryChar := fun _ => inferInstanceAs (Decidable (_ ∧ _))

theorem pathChar_iff {c : Char} : PathChar c ↔ isPathChar c = true ∧ c ≠ '#' ∧ c ≠ '?' := by
  simp only [PathChar, isPathChar, List.mem_cons, List.not_mem_nil, Bool.and_eq_true,
    decide_eq_true_eq]
  grind

theorem queryChar_iff {c : Char} : QueryChar c ↔ isQueryChar c = true ∧ c ≠ '#' := by
  simp only [QueryChar, isQueryChar, List.mem_cons, List.not_mem_nil, Bool.and_eq_true,
    decide_eq_true_eq]
  grind

/-- All characters of a text may stand in a path. -/
def FitsPath (s : String) : Prop := ∀ c ∈ s.toList, PathChar c

/-- All characters of a text may stand in a query. -/
def FitsQuery (s : String) : Prop := ∀ c ∈ s.toList, QueryChar c

instance : DecidablePred FitsPath := fun s => List.decidableBAll PathChar s.toList

instance : DecidablePred FitsQuery := fun s => List.decidableBAll QueryChar s.toList

@[simp]
theorem fitsPath_append {s t : String} : FitsPath (s ++ t) ↔ FitsPath s ∧ FitsPath t := by
  simp only [FitsPath, String.toList_append, List.mem_append, or_imp, forall_and]

@[simp]
theorem fitsQuery_append {s t : String} : FitsQuery (s ++ t) ↔ FitsQuery s ∧ FitsQuery t := by
  simp only [FitsQuery, String.toList_append, List.mem_append, or_imp, forall_and]

/-! ## Parts of a target -/

section Marks

variable {mark : Char} {before after : List Char}

/-- What stands before the first mark, and what follows from there on. -/
theorem takeWhile_ne_append (h : mark ∉ before)
    (hafter : after = [] ∨ ∃ rest, after = mark :: rest) :
    (before ++ after).takeWhile (· ≠ mark) = before ∧
      (before ++ after).dropWhile (· ≠ mark) = after := by
  have hbefore : ∀ c ∈ before, decide (c ≠ mark) = true := by
    intro c hc
    exact decide_eq_true fun heq => h (heq ▸ hc)
  rw [List.takeWhile_append_of_pos hbefore, List.dropWhile_append_of_pos hbefore]
  rcases hafter with rfl | ⟨rest, rfl⟩ <;> simp

theorem dropWhile_ne_cases (mark : Char) (cs : List Char) :
    cs.dropWhile (· ≠ mark) = [] ∨ ∃ rest, cs.dropWhile (· ≠ mark) = mark :: rest := by
  induction cs with
  | nil => exact .inl rfl
  | cons c rest ih =>
    by_cases hc : c = mark
    · exact .inr ⟨rest, by simp [hc]⟩
    · simpa [hc] using ih

theorem not_mem_takeWhile_ne (mark : Char) (cs : List Char) : mark ∉ cs.takeWhile (· ≠ mark) := by
  intro h
  simpa using List.mem_takeWhile_imp h

end Marks

/-- The path of a target ends at the first question mark, its query from there at the first number
sign, and its fragment is the rest. -/
structure TargetParts (target path query fragment : List Char) : Prop where
  eq : target = path ++ query ++ fragment
  unquestioned : '?' ∉ path
  unnumbered : '#' ∉ path ++ query
  questioned : query = [] ∨ ∃ params, query = '?' :: params
  numbered : fragment = [] ∨ ∃ rest, fragment = '#' :: rest

theorem exists_targetParts (target : List Char) :
    ∃ path query fragment, TargetParts target path query fragment := by
  let shown := target.takeWhile (· ≠ '#')
  have hsplit : shown.takeWhile (· ≠ '?') ++ shown.dropWhile (· ≠ '?') = shown :=
    List.takeWhile_append_dropWhile
  refine ⟨shown.takeWhile (· ≠ '?'), shown.dropWhile (· ≠ '?'), target.dropWhile (· ≠ '#'), ?_,
    not_mem_takeWhile_ne '?' shown, ?_, dropWhile_ne_cases '?' shown,
    dropWhile_ne_cases '#' target⟩
  · rw [hsplit]
    exact List.takeWhile_append_dropWhile.symm
  · rw [hsplit]
    exact not_mem_takeWhile_ne '#' target

section Sent

variable {target uri : String} {path query fragment : List Char}

/-- What is sent for a target, by its parts. -/
theorem requestTarget?_of_parts (h : TargetParts target.toList path query fragment) :
    requestTarget? target =
      if path.all isPathChar && (query.drop 1).all isQueryChar && target.utf8ByteSize < 65535 then
        some (String.ofList (path ++ query))
      else none := by
  have hshown : target.toList.takeWhile (· ≠ '#') = path ++ query := by
    rw [h.eq, (takeWhile_ne_append h.unnumbered h.numbered).1]
  obtain ⟨hpath, hquery⟩ := takeWhile_ne_append h.unquestioned h.questioned
  rw [requestTarget?, hshown]
  simp only [hpath, hquery]

/-- A target is sent as a text: as its path and the query behind it, if it has one, whose characters
may stand there. What follows a number sign is left out. -/
def SentAs (target uri : String) : Prop :=
  target.utf8ByteSize < 65535 ∧ ∃ path query fragment : List Char,
    target.toList = path ++ query ++ fragment ∧ uri.toList = path ++ query ∧
    (∀ c ∈ path, PathChar c) ∧
    (query = [] ∨ ∃ params, query = '?' :: params ∧ ∀ c ∈ params, QueryChar c) ∧
    (fragment = [] ∨ ∃ rest, fragment = '#' :: rest)

theorem sentAs_of_requestTarget? (h : requestTarget? target = some uri) : SentAs target uri := by
  obtain ⟨path, query, fragment, hparts⟩ := exists_targetParts target.toList
  rw [requestTarget?_of_parts hparts] at h
  split at h
  case isFalse => cases h
  case isTrue hfits =>
    obtain rfl := Option.some.inj h
    simp only [Bool.and_eq_true, List.all_eq_true, decide_eq_true_eq] at hfits
    obtain ⟨⟨hpath, hquery⟩, hshort⟩ := hfits
    have hshown {c : Char} (hc : c ∈ path ++ query) : c ≠ '#' :=
      ne_of_mem_of_not_mem hc hparts.unnumbered
    refine ⟨hshort, path, query, fragment, hparts.eq, String.toList_ofList, fun c hc => ?_, ?_,
      hparts.numbered⟩
    · exact pathChar_iff.2 ⟨hpath c hc, hshown (List.mem_append_left _ hc),
        ne_of_mem_of_not_mem hc hparts.unquestioned⟩
    · rcases hparts.questioned with hnone | ⟨params, rfl⟩
      · exact .inl hnone
      · refine .inr ⟨params, rfl, fun c hc => queryChar_iff.2 ⟨hquery c hc, hshown ?_⟩⟩
        exact List.mem_append_right _ (List.mem_cons_of_mem _ hc)

theorem requestTarget?_of_sentAs (h : SentAs target uri) : requestTarget? target = some uri := by
  obtain ⟨hshort, path, query, fragment, htarget, huri, hpath, hquery, hfragment⟩ := h
  have hmark : ∀ c ∈ query, c ≠ '#' := by
    rcases hquery with rfl | ⟨params, rfl, hparams⟩
    · nofun
    · exact List.forall_mem_cons.2 ⟨by decide, fun c hc => (queryChar_iff.1 (hparams c hc)).2⟩
  have hparts : TargetParts target.toList path query fragment := by
    refine ⟨htarget, fun hmem => ?_, fun hmem => ?_,
      hquery.imp_right fun h => h.imp fun _ => And.left, hfragment⟩
    · exact (pathChar_iff.1 (hpath _ hmem)).2.2 rfl
    · rcases List.mem_append.1 hmem with hmem | hmem
      · exact (pathChar_iff.1 (hpath _ hmem)).2.1 rfl
      · exact hmark _ hmem rfl
  rw [requestTarget?_of_parts hparts, if_pos, ← huri, String.ofList_toList]
  simp only [Bool.and_eq_true, List.all_eq_true, decide_eq_true_eq]
  refine ⟨⟨fun c hc => (pathChar_iff.1 (hpath c hc)).1, fun c hc => ?_⟩, hshort⟩
  rcases hquery with rfl | ⟨params, rfl, hparams⟩
  · cases hc
  · exact (queryChar_iff.1 (hparams c hc)).1

/-- A target is sent as at most one text, and it is known as which. -/
theorem requestTarget?_eq_some : requestTarget? target = some uri ↔ SentAs target uri :=
  ⟨sentAs_of_requestTarget?, requestTarget?_of_sentAs⟩

/-- A path with a query is sent as it stands, if the characters of both fit. -/
theorem sentAs_query {path query : String} (hpath : FitsPath path) (hquery : FitsQuery query)
    (hshort : (path ++ "?" ++ query).utf8ByteSize < 65535) :
    SentAs (path ++ "?" ++ query) (path ++ "?" ++ query) :=
  ⟨hshort, path.toList, '?' :: query.toList, [], by simp, by simp, hpath,
    .inr ⟨_, rfl, hquery⟩, .inl rfl⟩

/-- The query may be empty. -/
theorem sentAs_emptyQuery {path : String} (h : FitsPath path)
    (hshort : (path ++ "?").utf8ByteSize < 65535) : SentAs (path ++ "?") (path ++ "?") := by
  have hempty : path ++ "?" ++ "" = path ++ "?" := String.append_empty
  rw [← hempty] at hshort ⊢
  exact sentAs_query h (by decide +kernel) hshort

theorem SentAs.unique {uri' : String} (h : SentAs target uri) (h' : SentAs target uri') :
    uri = uri' :=
  Option.some.inj ((requestTarget?_of_sentAs h).symm.trans (requestTarget?_of_sentAs h'))

end Sent

/-! ## Requests -/

/-- A request with a method and a body is sent for a target. -/
structure Request.IsFor (r : Request) (method : Method) (target : String) (body : Option Json) :
    Prop where
  method : r.method = method
  uri : SentAs target r.uri
  body : r.body = body

section Requests

variable {method : Method} {target : String} {body : Option Json} {r : Request}

theorem request?_eq_some : request? method target body = some r ↔ r.IsFor method target body := by
  rw [request?, Option.map_eq_some_iff]
  constructor
  · rintro ⟨uri, huri, rfl⟩
    exact ⟨rfl, requestTarget?_eq_some.1 huri, rfl⟩
  · rintro ⟨rfl, huri, rfl⟩
    exact ⟨r.uri, requestTarget?_eq_some.2 huri, rfl⟩

/-- For a target that is sent as it stands there is one request. -/
theorem SentAs.isFor_iff (h : SentAs target target) :
    r.IsFor method target body ↔ r = ⟨method, target, body⟩ := by
  constructor
  · rintro ⟨rfl, huri, rfl⟩
    rw [h.unique huri]
  · rintro rfl
    exact ⟨rfl, h, rfl⟩

/-- What is sent to the member of a collection, which has a name. -/
theorem Collection.member?_bind_eq_some {collection : Collection} {name : String}
    {request : String → Option Request} :
    (collection.member? name).bind request = some r ↔
      name ≠ "" ∧ request (collection.path ++ "/" ++ name) = some r := by
  rw [member?]
  split
  case isTrue hname => simp [hname]
  case isFalse hname => simp [hname]

end Requests

/-! ## Parameters of a form -/

theorem queryChar_of_isFormSafe {c : Char} (h : isFormSafe c = true) : QueryChar c := by
  have hcontrol : ∀ n : Fin 0x21, isFormSafe (Char.ofNat n) = false := by decide +kernel
  have hmarks : ['"', '#', '<', '>', '\x7f'].all (!isFormSafe ·) = true := by decide +kernel
  constructor
  · by_contra hlt
    have hc := hcontrol ⟨c.toNat, by omega⟩
    rw [Char.ofNat_toNat, h] at hc
    cases hc
  · intro hmem
    simpa [h] using List.all_eq_true.1 hmarks c hmem

theorem queryChar_of_mem_percentEncoded {b : UInt8} {c : Char} (h : c ∈ percentEncoded b) :
    QueryChar c := by
  have hdigit : ∀ n : Fin 16, QueryChar (upperHex n) := by decide +kernel
  have hb := b.toNat_lt
  simp only [percentEncoded, List.mem_cons, List.not_mem_nil, or_false] at h
  rcases h with rfl | rfl | rfl
  · decide +kernel
  · exact hdigit ⟨b.toNat / 16, by omega⟩
  · exact hdigit ⟨b.toNat % 16, by omega⟩

theorem queryChar_of_mem_formChar {c d : Char} (h : d ∈ formChar c) : QueryChar d := by
  rw [formChar] at h
  split at h
  case isTrue hsafe =>
    rw [List.mem_singleton.1 h]
    exact queryChar_of_isFormSafe hsafe
  case isFalse =>
    split at h
    case isTrue =>
      rw [List.mem_singleton.1 h]
      decide +kernel
    case isFalse =>
      obtain ⟨b, -, hd⟩ := List.mem_flatMap.1 h
      exact queryChar_of_mem_percentEncoded hd

theorem fitsQuery_formEncoded (s : String) : FitsQuery (formEncoded s) := by
  intro d hd
  rw [formEncoded, String.toList_ofList] at hd
  obtain ⟨c, -, hd⟩ := List.mem_flatMap.1 hd
  exact queryChar_of_mem_formChar hd

/-! ## Requests for classes -/

/-- The path of a class. -/
def classPath (name : String) : String :=
  "/apis/namespaceclass.akuity.io/v1alpha1/namespaceclasses/" ++ name

theorem fitsPath_classPath {name : String} (h : FitsPath name) : FitsPath (classPath name) :=
  fitsPath_append.2 ⟨by decide +kernel, h⟩

theorem classes_path (name : String) : Collection.classes.path ++ "/" ++ name = classPath name := by
  have hslash : Collection.classes.path ++ "/" =
      "/apis/namespaceclass.akuity.io/v1alpha1/namespaceclasses/" := by decide +kernel
  exact congrArg (· ++ name) hslash

/-- A class that has a name is put. -/
theorem Collection.replace?_classes {name : String} {object : Json} {r : Request} :
    classes.replace? name object = some r ↔
      name ≠ "" ∧ r.IsFor .put (classPath name ++ "?") (some object) := by
  refine member?_bind_eq_some.trans (and_congr_right fun _ => ?_)
  rw [classes_path, request?_eq_some]

/-- Where the status of a class is patched, in the name of a controller. -/
def statusTarget (name controller : String) : String :=
  classPath name ++ "/status?&fieldManager=" ++ formEncoded controller

theorem sentAs_statusTarget {name controller : String} (hfits : FitsPath name)
    (hshort : (statusTarget name controller).utf8ByteSize < 65535) :
    SentAs (statusTarget name controller) (statusTarget name controller) := by
  have hpath : FitsPath (classPath name ++ "/status") :=
    fitsPath_append.2 ⟨fitsPath_classPath hfits, by decide +kernel⟩
  have hquery : FitsQuery ("&fieldManager=" ++ formEncoded controller) :=
    fitsQuery_append.2 ⟨by decide +kernel, fitsQuery_formEncoded controller⟩
  have hmark : "/status" ++ "?" ++ "&fieldManager=" = "/status?&fieldManager=" := by decide +kernel
  have htarget : classPath name ++ "/status" ++ "?" ++
      ("&fieldManager=" ++ formEncoded controller) = statusTarget name controller := by
    rw [statusTarget, ← hmark]
    simp only [String.append_assoc]
  rw [← htarget] at hshort ⊢
  exact sentAs_query hpath hquery hshort

/-- The status of a class that has a name is patched in the name of a field manager, which must not
be too long. -/
theorem Collection.patchStatus?_classes {name fieldManager : String} {patch : Json} {r : Request} :
    classes.patchStatus? name fieldManager patch = some r ↔
      name ≠ "" ∧ fieldManager.utf8ByteSize ≤ 128 ∧
        r.IsFor .patch (statusTarget name fieldManager) (some patch) := by
  refine member?_bind_eq_some.trans (and_congr_right fun _ => ?_)
  have hquery : formQuery [("fieldManager", fieldManager)] =
      "&fieldManager=" ++ formEncoded fieldManager := by
    have hname : "&" ++ formEncoded "fieldManager" ++ "=" = "&fieldManager=" := by decide +kernel
    simp only [formQuery, List.map_cons, List.map_nil, String.join_cons, String.join_nil, hname,
      String.append_empty]
  have hmark : "/status?" ++ "&fieldManager=" = "/status?&fieldManager=" := by decide +kernel
  have htarget : classPath name ++ "/status?" ++ ("&fieldManager=" ++ formEncoded fieldManager) =
      statusTarget name fieldManager := by
    rw [statusTarget, ← hmark]
    simp only [String.append_assoc]
  rw [classes_path, hquery]
  split
  case isTrue hlong => simp [Nat.not_le.2 hlong]
  case isFalse hshort =>
    rw [and_iff_right (Nat.le_of_not_lt hshort), ← request?_eq_some, ← htarget]

end ClassReconciler
