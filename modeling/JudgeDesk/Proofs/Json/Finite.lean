import JudgeDesk.Proofs.Json.Record

/-!
# Documents with finite numbers

The text of a document has no infinite numbers and no not-a-numbers. What is decoded from a document
without them has none either, as each value is decoded from a part of the document.

* `Json.isFinite` — every number of a document is finite;
* `Decode.isFinite_of_record`, `Field.exists_of_get` — the values of a record are parts of it;
* `Decode.Yields` — what is decoded from finite documents has a property;
* `Decode.yields_real64`, `Field.of_get` — numbers are finite, and so are the values of fields.
-/

namespace JudgeDesk

namespace Json

mutual

/-- **Whether every number of a document is finite.** A whole number counts as the number that it
is rounded to. -/
def isFinite : Json → Bool
  | int n => (Binary64.ofInt n).isFinite
  | real x => x.isFinite
  | array items => allFinite items
  | object members => allFiniteMembers members
  | fault _ value => isFinite value
  | _ => true

/-- Whether every number of all items of an array is finite. -/
def allFinite : List Json → Bool
  | [] => true
  | v :: rest => isFinite v && allFinite rest

/-- Whether every number of all members of an object is finite. -/
def allFiniteMembers : List (String × Json) → Bool
  | [] => true
  | (_, v) :: rest => isFinite v && allFiniteMembers rest

end

theorem isFinite_of_allFinite {vs : List Json} (h : allFinite vs = true) {v : Json} (hv : v ∈ vs) :
    v.isFinite = true := by
  induction vs with
  | nil => cases hv
  | cons w rest ih =>
    rw [allFinite, Bool.and_eq_true] at h
    rcases List.mem_cons.mp hv with rfl | hv
    · exact h.1
    · exact ih h.2 hv

theorem isFinite_of_allFiniteMembers {ms : List (String × Json)} (h : allFiniteMembers ms = true)
    {m : String × Json} (hm : m ∈ ms) : m.2.isFinite = true := by
  induction ms with
  | nil => cases hm
  | cons m' rest ih =>
    rw [allFiniteMembers, Bool.and_eq_true] at h
    rcases List.mem_cons.mp hm with rfl | hm
    · exact h.1
    · exact ih h.2 hm

end Json

namespace Decode

variable {α : Type} {decode : Decoder α} {layout : List (String × Decoder Unit)}

/-! ### Parts of a record -/

/-- The items of an array are taken as they are. -/
theorem map_snd_of_positions {layout : List (String × Decoder Unit)} {vs : List Json}
    {given : List (String × Json)} (h : positions layout vs = .ok given) :
    given.map Prod.snd = vs := by
  induction vs generalizing layout given with
  | nil =>
    rw [positions] at h
    obtain rfl := Except.ok.inj h
    rfl
  | cons v rest ih =>
    rcases layout with _ | ⟨⟨key, check⟩, fields⟩
    · cases h
    · rw [positions] at h
      obtain ⟨-, -, h⟩ := bind_eq_ok.mp h
      obtain ⟨given', hgiven', h⟩ := bind_eq_ok.mp h
      obtain rfl := Except.ok.inj h
      rw [List.map_cons, ih hgiven']

/-- **What is given for the fields of a record is part of it.** -/
theorem isFinite_of_record {v : Json} {given : List (String × Json)}
    (h : record layout v = .ok given) (hv : v.isFinite = true) :
    ∀ m ∈ given, m.2.isFinite = true := by
  intro m hm
  cases v with
  | object ms =>
    obtain rfl := eq_filter_of_members h
    exact Json.isFinite_of_allFiniteMembers hv (List.mem_of_mem_filter hm)
  | array vs =>
    refine Json.isFinite_of_allFinite hv ?_
    rw [← map_snd_of_positions h]
    exact List.mem_map_of_mem hm
  | _ => cases h

/-! ### Values -/

variable {P : α → Prop}

/-- **What a decoder yields**: everything that it decodes from a finite document has a property. -/
def Yields (decode : Decoder α) (P : α → Prop) : Prop :=
  ∀ ⦃v : Json⦄ ⦃x : α⦄, v.isFinite = true → decode v = .ok x → P x

/-- **A number is decoded as a finite one.** -/
theorem yields_real64 : Yields real64 fun x => x.isFinite = true := by
  intro v x hv h
  cases v with
  | int n =>
    obtain rfl := Except.ok.inj h
    exact hv
  | real y =>
    obtain rfl := Except.ok.inj h
    exact hv
  | _ => cases h

theorem Yields.nullable (h : Yields decode P) : Yields (nullable decode) fun x => ∀ y ∈ x, P y := by
  intro v x hv hdecode y hy
  unfold Decode.nullable at hdecode
  split at hdecode
  · obtain rfl := Except.ok.inj hdecode
    cases hy
  · obtain ⟨z, hz, rfl⟩ := map_eq_ok.mp hdecode
    obtain rfl := Option.some.inj hy
    exact h hv hz

/-- Each value of a list is decoded from an item. -/
theorem exists_of_mem_items {vs : List Json} {xs : List α} (h : items decode vs = .ok xs) {x : α}
    (hx : x ∈ xs) : ∃ v ∈ vs, decode v = .ok x := by
  induction vs generalizing xs with
  | nil =>
    obtain rfl := Except.ok.inj h
    cases hx
  | cons v rest ih =>
    rw [items] at h
    obtain ⟨y, hy, h⟩ := bind_eq_ok.mp h
    obtain ⟨ys, hys, h⟩ := bind_eq_ok.mp h
    obtain rfl := Except.ok.inj h
    rcases List.mem_cons.mp hx with rfl | hx
    · exact ⟨v, List.mem_cons_self, hy⟩
    · obtain ⟨w, hw, hdecode⟩ := ih hys hx
      exact ⟨w, List.mem_cons_of_mem _ hw, hdecode⟩

theorem Yields.list (h : Yields decode P) : Yields (list decode) fun xs => ∀ x ∈ xs, P x := by
  intro v xs hv hdecode x hx
  cases v with
  | array vs =>
    obtain ⟨w, hw, hitem⟩ := exists_of_mem_items hdecode hx
    exact h (Json.isFinite_of_allFinite hv hw) hitem
  | _ => cases hdecode

theorem Yields.listOrNull (h : Yields decode P) :
    Yields (listOrNull decode) fun xs => ∀ x ∈ xs, P x := by
  intro v xs hv hdecode x hx
  obtain ⟨ys, hys, rfl⟩ := map_eq_ok.mp hdecode
  rcases ys with _ | ys
  · cases hx
  · exact h.list.nullable hv hys ys rfl x hx

end Decode

/-- A field has its default, or the value of what is given for it. -/
theorem Field.exists_of_get {α : Type} {f : Field α} {given : List (String × Json)} {x : α}
    (h : f.get given = .ok x) :
    f.absent = some x ∨ ∃ v, (f.name, v) ∈ given ∧ f.decode v = .ok x := by
  unfold get at h
  split at h
  · next v hlookup =>
    obtain ⟨front, back, rfl, -⟩ := List.lookup_eq_some_iff.mp hlookup
    exact .inr ⟨v, List.mem_append_right _ List.mem_cons_self, h⟩
  · next hlookup habsent =>
    obtain rfl := Except.ok.inj h
    exact .inl habsent
  · cases h

/-- **The value of a field of a finite record** has a property if its default and all that it is
decoded as have it. -/
theorem Field.of_get {α : Type} {f : Field α} {P : α → Prop} (h : Decode.Yields f.decode P)
    (habsent : ∀ x ∈ f.absent, P x) {layout : List (String × Decoder Unit)} {v : Json}
    {given : List (String × Json)} (hrecord : Decode.record layout v = .ok given)
    (hv : v.isFinite = true) {x : α} (hget : f.get given = .ok x) : P x := by
  rcases Field.exists_of_get hget with hx | ⟨w, hw, hdecode⟩
  · exact habsent x hx
  · exact h (Decode.isFinite_of_record hrecord hv _ hw) hdecode

end JudgeDesk
