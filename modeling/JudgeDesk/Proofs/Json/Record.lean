import JudgeDesk.Coded
import JudgeDesk.Proofs.Json.Members

/-!
# Records written and read back

A record is written as an object of the members that are there, and read back field by field. What
is read is what was written if every member stands for the value of its field: it is left out where
its absence means that value, and otherwise it is decoded as that value.

* `Json.Reads` — a document of a value, neither null nor a fault;
* `Field.Holds` — a member, or its absence, stands for a value of a field;
* `Entry` — a field with a value and the member that stands for it;
* `Entry.record_ofMembers`, `Entry.get_given`, `Entry.exists_given` — the entries of a record are
  read back.
-/

namespace JudgeDesk

/-! ### Values -/

/-- Neither null nor a fault. -/
def Json.isPlain : Json → Bool
  | .null => false
  | .fault _ _ => false
  | _ => true

/-- **A document of a value.** -/
structure Json.Reads {α : Type} (decode : Decoder α) (v : Json) (x : α) : Prop where
  /-- it is decoded as the value -/
  decode_eq : decode v = .ok x
  /-- it is neither null nor a fault -/
  plain : v.isPlain = true

namespace Json

variable {α β : Type} {decode : Decoder α}

theorem reads_string (s : String) : Reads Decode.text (.string s) s := ⟨rfl, rfl⟩

theorem reads_bool (b : Bool) : Reads Decode.truth (.bool b) b := ⟨rfl, rfl⟩

theorem reads_ofReal {x : Binary64} (h : x.isFinite = true) :
    Reads Decode.real64 (.ofReal x) x := by
  rw [ofReal, if_pos h]
  exact ⟨rfl, rfl⟩

theorem reads_ofUInt64 (n : UInt64) : Reads Decode.uint64 (.ofUInt64 n) n := by
  refine ⟨?_, rfl⟩
  have hrange : (0 : Int) ≤ n.toNat ∧ (n.toNat : Int) < UInt64.size :=
    ⟨Int.natCast_nonneg _, Int.ofNat_lt.mpr n.toNat_lt_size⟩
  rw [Decode.uint64, ofUInt64, Decode.integer, if_pos hrange]
  exact congrArg Except.ok UInt64.ofNat_toNat

theorem reads_code [Coded α] (x : α) : Reads Coded.decode (Coded.encode x) x := by
  refine ⟨?_, rfl⟩
  have hrange : (0 : Int) ≤ Coded.code x ∧ (Coded.code x : Int) < UInt8.size :=
    ⟨Int.natCast_nonneg _, Int.ofNat_lt.mpr (Coded.code_lt x)⟩
  rw [Coded.decode, Decode.coded, Coded.encode, ofNat, Decode.integer, if_pos hrange]
  simp only [Except.bind, Int.toNat_natCast, Coded.ofCode?_code]

/-- Items that are read one by one. -/
theorem items_map {write : β → Json} {read : β → α} {xs : List β}
    (h : ∀ x ∈ xs, decode (write x) = .ok (read x)) :
    Decode.items decode (xs.map write) = .ok (xs.map read) := by
  induction xs with
  | nil => rfl
  | cons x rest ih =>
    rw [List.map_cons, Decode.items, h x List.mem_cons_self,
      ih fun y hy => h y (List.mem_cons_of_mem _ hy)]
    rfl

theorem reads_ofList {write : β → Json} {read : β → α} {xs : List β}
    (h : ∀ x ∈ xs, decode (write x) = .ok (read x)) :
    Reads (Decode.list decode) (.ofList write xs) (xs.map read) :=
  ⟨items_map h, rfl⟩

/-- A list of values that are all read back is read back. -/
theorem reads_ofList_self {write : α → Json} {xs : List α}
    (h : ∀ x ∈ xs, decode (write x) = .ok x) :
    Reads (Decode.list decode) (.ofList write xs) xs := by
  simpa only [List.map_id'] using reads_ofList h

/-- What is not null is read as if it could not be null. -/
theorem nullable_of_isPlain {v : Json} (h : v.isPlain = true) :
    Decode.nullable decode v = (decode v).map some := by
  cases v with
  | null => cases h
  | _ => rfl

theorem Reads.ne_fault {v : Json} {x : α} (h : Reads decode v x) (fault : Fault) (w : Json) :
    v ≠ .fault fault w := by
  rintro rfl
  have hplain := h.plain
  cases hplain

theorem Reads.nullable {v : Json} {x : α} (h : Reads decode v x) :
    Decode.nullable decode v = .ok (some x) := by
  rw [nullable_of_isPlain h.plain, h.decode_eq]
  rfl

theorem Reads.listOrNull {v : Json} {xs : List α} (h : Reads (Decode.list decode) v xs) :
    Reads (Decode.listOrNull decode) v xs := by
  refine ⟨?_, h.plain⟩
  rw [Decode.listOrNull, h.nullable]
  rfl

/-- **A number that is not finite is written as null**, which is read as no number. -/
theorem nullable_ofReal (x : Binary64) :
    Decode.nullable Decode.real64 (.ofReal x) = .ok (if x.isFinite then some x else none) := by
  unfold ofReal
  split <;> rfl

end Json

/-! ### Fields -/

namespace Field

variable {α β : Type}

/-- **A member, or its absence, stands for a value** of a field. -/
def Holds (f : Field α) (x : α) : Option (String × Json) → Prop
  | some (key, v) => key = f.name ∧ f.decode v = .ok x ∧ ∀ fault w, v ≠ .fault fault w
  | none => f.absent = some x

end Field

/-- A field with a value and the member that stands for it. -/
structure Entry where
  /-- the type of the field -/
  {α : Type}
  /-- the field -/
  field : Field α
  /-- its value -/
  value : α
  /-- the member that is written; none if it is left out -/
  member : Option (String × Json)
  /-- the member stands for the value -/
  holds : field.Holds value member

namespace Entry

variable {α β : Type}

/-- An entry that is always written. -/
def written (f : Field α) {v : Json} {x : α} (h : Json.Reads f.decode v x) : Entry where
  field := f
  value := x
  member := Json.member f.name v
  holds := ⟨rfl, h.decode_eq, h.ne_fault⟩

/-- An entry that is left out where there is no value. -/
def optional (name : String) {decode : Decoder α} {write : α → Json}
    (h : ∀ y, Json.Reads decode (write y) y) (x : Option α) : Entry where
  field := .optional name decode
  value := x
  member := Json.member? name write x
  holds := by
    cases x with
    | none => rfl
    | some y => exact ⟨rfl, (h y).nullable, (h y).ne_fault⟩

/-- An entry that is left out where there is no value, for a value that can be read back. -/
def present (name : String) {decode : Decoder α} {write : α → Json} {x : Option α}
    (h : ∀ y ∈ x, Json.Reads decode (write y) y) : Entry where
  field := .optional name decode
  value := x
  member := Json.member? name write x
  holds := by
    cases x with
    | none => rfl
    | some y =>
      have hy : Json.Reads decode (write y) y := h y rfl
      exact ⟨rfl, hy.nullable, hy.ne_fault⟩

/-- A number that may be absent. If it is not finite it is read back as absent. -/
def real (name : String) (x : Option Binary64) : Entry where
  field := .optional name Decode.real64
  value := x.filter Binary64.isFinite
  member := Json.member? name .ofReal x
  holds := by
    cases x with
    | none => rfl
    | some y =>
      refine ⟨rfl, Json.nullable_ofReal y, fun fault w heq => ?_⟩
      unfold Json.ofReal at heq
      split at heq <;> cases heq

/-- A list, which is left out if `omitted` holds; it may be so only where it is empty. -/
def listing (name : String) {decode : Decoder α} {write : β → Json} {read : β → α}
    (h : ∀ y, decode (write y) = .ok (read y)) {xs : List β} {ys : List α} (hys : xs.map read = ys)
    (omitted : Bool) (homitted : omitted = true → xs = []) : Entry where
  field := .listing name decode
  value := ys
  member := if omitted then none else Json.member name (.ofList write xs)
  holds := by
    subst hys
    cases omitted with
    | true =>
      obtain rfl := homitted rfl
      rfl
    | false => exact ⟨rfl, (Json.reads_ofList fun y _ => h y).listOrNull.decode_eq, nofun⟩

end Entry

/-! ### Records -/

/-- **Members with distinct keys that all fit are taken as they are.** -/
theorem Decode.members_eq_ok {layout : List (String × Decoder Unit)} {ms : List (String × Json)}
    (hnodup : (ms.map Prod.fst).Nodup)
    (hfit : ∀ m ∈ ms, (∃ check, layout.lookup m.1 = some check ∧ check m.2 = .ok ()) ∧
      ∀ fault w, m.2 ≠ .fault fault w) : members layout [] ms = .ok ms := by
  have hknown : ∀ m ∈ ms, known layout m.1 = true := fun m hm =>
    known_of_lookup (hfit m hm).1.choose_spec.1
  have htaken : (ms.filter fun m => known layout m.1) = ms := List.filter_eq_self.mpr hknown
  rw [members_eq_filter, htaken]
  · intro m hm
    rcases hv : m.2 with _ | _ | _ | _ | _ | _ | _ | ⟨fault, w⟩
    case fault => exact absurd hv ((hfit m hm).2 fault w)
    all_goals rfl
  · intro m hm hnone
    obtain ⟨⟨check, hlookup, -⟩, -⟩ := hfit m hm
    rw [hnone] at hlookup
    cases hlookup
  · intro m hm check hlookup
    obtain ⟨⟨check', hlookup', hcheck⟩, -⟩ := hfit m hm
    obtain rfl := Option.some.inj (hlookup.symm.trans hlookup')
    exact hcheck
  · exact fun key _ => List.nodup_iff_count_le_one.mp hnodup key
  · exact fun _ _ _ => List.not_mem_nil

namespace Entry

variable {entries : List Entry}

/-- The key of the field of an entry, and whether a value will do for it. -/
def check (e : Entry) : String × Decoder Unit := e.field.check

/-- A member that is written has the key of its field. -/
theorem fst_of_mem_member {e : Entry} {m : String × Json} (h : e.member = some m) :
    m.1 = e.field.name := by
  have hholds := e.holds
  rw [h] at hholds
  exact hholds.1

theorem nodup_names (hnodup : ((entries.map check).map Prod.fst).Nodup) :
    ((entries.filterMap member).map Prod.fst).Nodup := by
  refine hnodup.sublist ?_
  induction entries with
  | nil => exact List.Sublist.refl _
  | cons e rest ih =>
    rw [List.map_cons, List.map_cons] at hnodup
    rcases hmember : e.member with _ | m
    · rw [List.filterMap_cons_none hmember, List.map_cons, List.map_cons]
      exact (ih (List.nodup_cons.mp hnodup).2).cons _
    · rw [List.filterMap_cons_some hmember, List.map_cons, List.map_cons, List.map_cons,
        fst_of_mem_member hmember]
      exact (ih (List.nodup_cons.mp hnodup).2).cons_cons _

/-- **A record is read back**: it gives the members that were written as the values of its
fields. -/
theorem record_ofMembers (entries : List Entry)
    (hnodup : ((entries.map check).map Prod.fst).Nodup) :
    Decode.record (entries.map check) (.ofMembers (entries.map member)) =
      .ok (entries.filterMap member) := by
  have hms : (entries.map member).filterMap id = entries.filterMap member := by
    rw [List.filterMap_map]
    rfl
  rw [Json.ofMembers, hms, Decode.record]
  refine Decode.members_eq_ok (nodup_names hnodup) fun m hm => ?_
  obtain ⟨e, he, hmember⟩ := List.mem_filterMap.mp hm
  have hholds := e.holds
  rw [hmember] at hholds
  obtain ⟨hkey, hdecode, hfault⟩ := hholds
  refine ⟨⟨e.check.2, ?_, ?_⟩, hfault⟩
  · rw [hkey]
    exact lookup_of_mem hnodup (List.mem_map_of_mem he)
  · change (e.field.decode m.2).map (fun _ => ()) = .ok ()
    rw [hdecode]
    rfl

/-- **Every field has its value back.** -/
theorem get_given (entries : List Entry)
    (hnodup : ((entries.map check).map Prod.fst).Nodup) :
    entries.Forall fun e => e.field.get (entries.filterMap member) = .ok e.value := by
  refine List.forall_iff_forall_mem.mpr fun e he => ?_
  have hholds := e.holds
  rcases hmember : e.member with _ | ⟨key, v⟩
  · -- no other entry has the key of this one
    have hnone : (entries.filterMap member).lookup e.field.name = none := by
      refine List.lookup_eq_none_iff.mpr fun m hm => bne_iff_ne.mpr fun hname => ?_
      obtain ⟨e', he', hmember'⟩ := List.mem_filterMap.mp hm
      rw [List.map_map] at hnodup
      have hsame : e = e' :=
        List.inj_on_of_nodup_map hnodup he he' (hname.trans (fst_of_mem_member hmember'))
      rw [← hsame, hmember] at hmember'
      cases hmember'
    rw [hmember] at hholds
    have habsent : e.field.absent = some e.value := hholds
    simp only [Field.get, hnone, habsent]
  · rw [hmember] at hholds
    obtain ⟨hkey, hdecode, -⟩ := hholds
    have hsome : (entries.filterMap member).lookup e.field.name = some v :=
      lookup_of_mem (nodup_names hnodup) (List.mem_filterMap.mpr ⟨e, he, by rw [hmember, hkey]⟩)
    simp only [Field.get, hsome, hdecode]

/-- **The entries of a record are read back.** -/
theorem exists_given (entries : List Entry)
    (hnodup : ((entries.map check).map Prod.fst).Nodup) :
    ∃ given, Decode.record (entries.map check) (.ofMembers (entries.map member)) = .ok given ∧
      entries.Forall fun e => e.field.get given = .ok e.value :=
  ⟨entries.filterMap member, record_ofMembers entries hnodup, get_given entries hnodup⟩

end Entry

end JudgeDesk
