import Mathlib.Data.List.Nodup
import JudgeDesk.Json.Record

/-!
# The members of an object

An object may have members beside those of a record. They are passed over: what is taken of an
object are its members under known keys, in the order in which they stand.

* `ok_bind`, `bind_eq_ok`, `map_eq_ok` — one step of decoding after another;
* `lookup_of_count_le_one`, `lookup_of_mem`, `lookup_filter` — looking up a key;
* `Json.hasKey`, `Decode.known` — whether a key can be used, and whether there is a field for it;
* `Decode.eq_filter_of_members` — what is taken of an object;
* `Decode.members_eq_filter` — it is taken if no known key repeats and every known member fits.
-/

namespace JudgeDesk

/-! ### Steps of decoding -/

section

variable {ε α β : Type}

theorem ok_bind (a : α) (f : α → Except ε β) : (Except.ok a >>= f) = f a := rfl

theorem bind_eq_ok {x : Except ε α} {f : α → Except ε β} {b : β} :
    (x >>= f) = .ok b ↔ ∃ a, x = .ok a ∧ f a = .ok b := by
  cases x with
  | error e => exact iff_of_false nofun fun ⟨_, h, _⟩ => nomatch h
  | ok a => exact ⟨fun h => ⟨a, rfl, h⟩, fun ⟨_, heq, h⟩ => Except.ok.inj heq ▸ h⟩

theorem map_eq_ok {x : Except ε α} {f : α → β} {b : β} :
    x.map f = .ok b ↔ ∃ a, x = .ok a ∧ f a = b := by
  cases x with
  | error e => exact iff_of_false nofun fun ⟨_, h, _⟩ => nomatch h
  | ok a =>
    refine ⟨fun h => ⟨a, rfl, Except.ok.inj h⟩, ?_⟩
    rintro ⟨_, ⟨⟩, rfl⟩
    rfl

end

/-! ### Looking up keys -/

section

variable {κ β : Type} [BEq κ] [LawfulBEq κ] {l : List (κ × β)} {k : κ} {b : β}

/-- A key that does not repeat is looked up wherever it stands. -/
theorem lookup_of_count_le_one (honce : (l.map Prod.fst).count k ≤ 1) (h : (k, b) ∈ l) :
    l.lookup k = some b := by
  obtain ⟨front, back, rfl⟩ := List.append_of_mem h
  refine List.lookup_eq_some_iff.mpr ⟨front, back, rfl, fun p hp => bne_iff_ne.mpr ?_⟩
  rintro rfl
  have hfront : 0 < (front.map Prod.fst).count p.1 :=
    List.count_pos_iff.mpr (List.mem_map_of_mem hp)
  rw [List.map_append, List.map_cons, List.count_append, List.count_cons_self] at honce
  omega

/-- In a list with distinct keys a key is looked up wherever it stands. -/
theorem lookup_of_mem (hnodup : (l.map Prod.fst).Nodup) (h : (k, b) ∈ l) : l.lookup k = some b :=
  lookup_of_count_le_one (List.nodup_iff_count_le_one.mp hnodup k) h

/-- Leaving out other keys does not matter for looking up a key. -/
theorem lookup_filter {p : κ → Bool} (hk : p k = true) (l : List (κ × β)) :
    (l.filter fun m => p m.1).lookup k = l.lookup k := by
  induction l with
  | nil => rfl
  | cons m rest ih =>
    obtain ⟨k', b⟩ := m
    by_cases hsame : k = k'
    · subst hsame
      rw [List.filter_cons, if_pos hk, List.lookup_cons_self, List.lookup_cons_self]
    · have hne : (k == k') = false := beq_eq_false_iff_ne.mpr hsame
      rw [List.lookup_cons, hne, ← ih, List.filter_cons]
      split
      · rw [List.lookup_cons, hne]
      · rfl

end

/-- Whether the member of which this is the value has a key that can be used. -/
def Json.hasKey : Json → Bool
  | .fault .noKey _ => false
  | .fault .unusableKey _ => false
  | _ => true

namespace Decode

variable {layout : List (String × Decoder Unit)} {seen : List String} {key : String} {v : Json}
  {ms rest given : List (String × Json)}

/-- Whether a layout has a field for a key. -/
def known (layout : List (String × Decoder Unit)) (key : String) : Bool :=
  (layout.lookup key).isSome

theorem known_of_lookup {check : Decoder Unit} (h : layout.lookup key = some check) :
    known layout key = true :=
  Option.isSome_iff_exists.mpr ⟨check, h⟩

theorem known_eq_false (h : layout.lookup key = none) : known layout key = false := by
  rw [known, h, Option.isSome_none]

/-! ### One member -/

/-- A member under an unknown key is passed over. -/
theorem members_of_unknown (hkey : v.hasKey = true) (hskip : v.canSkip = true)
    (hlookup : layout.lookup key = none) :
    members layout seen ((key, v) :: rest) = members layout seen rest := by
  have hpassed : v.skip = .ok () := if_pos hskip
  cases v with
  | fault fault w =>
    cases fault with
    | noKey => cases hkey
    | unusableKey => cases hkey
    | _ => simp only [members, hlookup, hpassed, ok_bind]
  | _ => simp only [members, hlookup, hpassed, ok_bind]

/-- A member under a known key that was not seen yet is taken if it fits. -/
theorem members_of_known (hkey : v.hasKey = true) {check : Decoder Unit}
    (hlookup : layout.lookup key = some check) (hseen : key ∉ seen) (hcheck : check v = .ok ())
    (hrest : members layout (key :: seen) rest = .ok given) :
    members layout seen ((key, v) :: rest) = .ok ((key, v) :: given) := by
  cases v with
  | fault fault w =>
    cases fault with
    | noKey => cases hkey
    | unusableKey => cases hkey
    | _ => simp only [members, hlookup, if_neg hseen, hcheck, hrest, ok_bind]
  | _ => simp only [members, hlookup, if_neg hseen, hcheck, hrest, ok_bind]

/-! ### All members -/

/-- **What is taken of an object** are its members under known keys. -/
theorem eq_filter_of_members (h : members layout seen ms = .ok given) :
    given = ms.filter fun m => known layout m.1 := by
  induction ms generalizing seen given with
  | nil => exact (Except.ok.inj h).symm
  | cons m rest ih =>
    obtain ⟨key, v⟩ := m
    unfold members at h
    split at h
    · next hnil => cases hnil
    · cases h
    · cases h
    · next heq =>
      obtain ⟨⟨rfl, rfl⟩, rfl⟩ := heq
      rw [List.filter_cons]
      split at h
      · next hlookup =>
        obtain ⟨-, -, h⟩ := bind_eq_ok.mp h
        rw [ih h, known_eq_false hlookup, if_neg Bool.false_ne_true]
      · next hlookup =>
        split at h
        · cases h
        · obtain ⟨-, -, h⟩ := bind_eq_ok.mp h
          obtain ⟨given', hgiven', h⟩ := bind_eq_ok.mp h
          obtain rfl := Except.ok.inj h
          rw [ih hgiven', known_of_lookup hlookup, if_pos rfl]

/-- **The members under known keys are taken** if none of these keys repeats, the members fit, and
all others can be passed over. -/
theorem members_eq_filter (hkeys : ∀ m ∈ ms, m.2.hasKey = true)
    (hskip : ∀ m ∈ ms, layout.lookup m.1 = none → m.2.canSkip = true)
    (hfit : ∀ m ∈ ms, ∀ check, layout.lookup m.1 = some check → check m.2 = .ok ())
    (honce : ∀ key, known layout key = true → (ms.map Prod.fst).count key ≤ 1)
    (hseen : ∀ m ∈ ms, known layout m.1 = true → m.1 ∉ seen) :
    members layout seen ms = .ok (ms.filter fun m => known layout m.1) := by
  induction ms generalizing seen with
  | nil => rfl
  | cons m rest ih =>
    obtain ⟨key, v⟩ := m
    have hrest (seen' : List String) (hseen' : ∀ m ∈ rest, known layout m.1 = true → m.1 ∉ seen') :
        members layout seen' rest = .ok (rest.filter fun m => known layout m.1) := by
      refine ih (fun m' hm' => hkeys m' (List.mem_cons_of_mem _ hm'))
        (fun m' hm' => hskip m' (List.mem_cons_of_mem _ hm'))
        (fun m' hm' => hfit m' (List.mem_cons_of_mem _ hm')) (fun key' hkey' => ?_) hseen'
      exact Nat.le_trans List.count_le_count_cons (honce key' hkey')
    have hkey : v.hasKey = true := hkeys (key, v) List.mem_cons_self
    rw [List.filter_cons]
    rcases hlookup : layout.lookup key with _ | check
    · rw [members_of_unknown hkey (hskip (key, v) List.mem_cons_self hlookup) hlookup,
        known_eq_false hlookup, if_neg Bool.false_ne_true]
      exact hrest seen fun m' hm' => hseen m' (List.mem_cons_of_mem _ hm')
    · have hknown : known layout key = true := known_of_lookup hlookup
      rw [if_pos hknown]
      refine members_of_known hkey hlookup (hseen (key, v) List.mem_cons_self hknown)
        (hfit (key, v) List.mem_cons_self check hlookup) (hrest _ fun m' hm' hknown' => ?_)
      rw [List.mem_cons, not_or]
      refine ⟨fun hsame => ?_, hseen m' (List.mem_cons_of_mem _ hm') hknown'⟩
      -- the key would be there twice
      have htwice := honce key hknown
      rw [List.map_cons, List.count_cons_self, ← hsame] at htwice
      have hmem : 0 < (rest.map Prod.fst).count m'.1 :=
        List.count_pos_iff.mpr (List.mem_map_of_mem hm')
      omega

end Decode

end JudgeDesk
