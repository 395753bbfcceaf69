import JudgeDesk.Json.Reader
import JudgeDesk.Proofs.Binary64.Finite
import JudgeDesk.Proofs.Json.Finite

/-!
# Texts that are read have finite numbers

Whatever a text says, the tree that it is read into has no infinite number: a number that is too
large is a fault.

* `isFinite_scanNumber` — a number;
* `ReadsFinite`, `readsFinite` — values, items and members, as they are read one inside the other;
* `isFinite_read` — a whole text.
-/

namespace JudgeDesk.Json

/-! ### Numbers -/

/-- The digits that are taken make a word. -/
theorem takeDigits_lt {word : Nat} (h : word < UInt64.size) (used : Nat) (cs : List Char) :
    (takeDigits word used cs).1 < UInt64.size := by
  induction cs generalizing word used with
  | nil => exact h
  | cons c rest ih =>
    unfold takeDigits
    dsimp only
    split
    · next hnext => exact ih hnext _
    · exact h

theorem isFinite_realOf (negative : Bool) (word : Nat) (exponent : Int) :
    (realOf negative word exponent).isFinite = true := by
  unfold realOf
  split
  · next hx => exact Binary64.isFinite_of_ofSignificand? hx
  · rfl

theorem isFinite_wholeOf (negative : Bool) {word : Nat} (h : word < UInt64.size) :
    (wholeOf negative word).isFinite = true := by
  unfold wholeOf
  split_ifs
  · exact Binary64.isFinite_ofInt h
  · refine Binary64.isFinite_ofInt ?_
    rw [Int.natAbs_neg]
    exact h
  · exact Binary64.isFinite_neg (Binary64.isFinite_ofNat h)

/-- **A number that is read is finite.** -/
theorem isFinite_scanNumber (negative : Bool) (cs : List Char) :
    (scanNumber negative cs).1.isFinite = true := by
  unfold scanNumber
  dsimp only
  split
  · rfl
  · split
    · rfl
    · split
      · rfl
      · split
        · rfl
        · split
          · exact isFinite_wholeOf negative (takeDigits_lt (by decide) 0 _)
          · exact isFinite_realOf negative _ _

/-! ### Values -/

theorem isFinite_scanWord (word : List Char) {v : Json} (h : v.isFinite = true) (cs : List Char) :
    (scanWord word v cs).1.isFinite = true := by
  unfold scanWord
  split
  · exact h
  · rfl

theorem isFinite_scanText (cs : List Char) : (scanText cs).1.isFinite = true := by
  unfold scanText
  split
  · rfl
  · split <;> rfl

theorem isFinite_nested (depth : Nat) {v : Json} (h : v.isFinite = true) :
    (nested depth v).isFinite = true := by
  unfold nested
  split <;> exact h

/-- **What the readers read is finite**, up to a number of values and brackets. -/
structure ReadsFinite (fuel : Nat) : Prop where
  /-- values -/
  value : ∀ depth cs, (value fuel depth cs).1.isFinite = true
  /-- items of an array -/
  items : ∀ depth first cs, allFinite (items fuel depth first cs).1 = true
  /-- an item and those after it -/
  itemsFrom : ∀ depth cs, allFinite (itemsFrom fuel depth cs).1 = true
  /-- members of an object -/
  members : ∀ depth first cs, allFiniteMembers (members fuel depth first cs).1 = true
  /-- a member and those after it -/
  membersFrom : ∀ depth cs, allFiniteMembers (membersFrom fuel depth cs).1 = true

namespace ReadsFinite

variable {fuel : Nat}

theorem zero : ReadsFinite 0 where
  value _ _ := by
    unfold Json.value
    rfl
  items _ _ _ := by
    unfold Json.items
    rfl
  itemsFrom _ _ := by
    unfold Json.itemsFrom
    rfl
  members _ _ _ := by
    unfold Json.members
    rfl
  membersFrom _ _ := by
    unfold Json.membersFrom
    rfl

theorem value_succ (h : ReadsFinite fuel) (depth : Nat) (cs : List Char) :
    (Json.value (fuel + 1) depth cs).1.isFinite = true := by
  unfold Json.value
  split
  · exact isFinite_scanWord _ rfl _
  · exact isFinite_scanWord _ rfl _
  · exact isFinite_scanWord _ rfl _
  · exact isFinite_scanText _
  · exact isFinite_scanNumber true _
  · exact isFinite_nested _ (h.items _ _ _)
  · exact isFinite_nested _ (h.members _ _ _)
  · split
    · exact isFinite_scanNumber false _
    · rfl
  · rfl

theorem items_succ (h : ReadsFinite fuel) (depth : Nat) (first : Bool) (cs : List Char) :
    allFinite (Json.items (fuel + 1) depth first cs).1 = true := by
  unfold Json.items
  split
  · rfl
  · split
    · rfl
    · split
      · rfl
      · exact h.itemsFrom _ _
  · split
    · exact h.itemsFrom _ _
    · rfl

theorem itemsFrom_succ (h : ReadsFinite fuel) (depth : Nat) (cs : List Char) :
    allFinite (Json.itemsFrom (fuel + 1) depth cs).1 = true := by
  have hvalue := h.value depth cs
  unfold Json.itemsFrom
  split
  · next v heq =>
    rw [heq] at hvalue
    exact Bool.and_eq_true_iff.mpr ⟨hvalue, rfl⟩
  · next v rest heq =>
    rw [heq] at hvalue
    exact Bool.and_eq_true_iff.mpr ⟨hvalue, h.items depth false rest⟩

theorem members_succ (h : ReadsFinite fuel) (depth : Nat) (first : Bool) (cs : List Char) :
    allFiniteMembers (Json.members (fuel + 1) depth first cs).1 = true := by
  unfold Json.members
  split
  · rfl
  · split
    · rfl
    · exact h.membersFrom _ _
  · split
    · exact h.membersFrom _ _
    · rfl

theorem membersFrom_succ (h : ReadsFinite fuel) (depth : Nat) (cs : List Char) :
    allFiniteMembers (Json.membersFrom (fuel + 1) depth cs).1 = true := by
  have hmark (key : Option String) {v : Json} (hv : v.isFinite = true) :
      (if key.isSome then v else fault .unusableKey v).isFinite = true := by
    split <;> exact hv
  unfold Json.membersFrom
  split
  · next fuel' _ hfuel =>
    obtain rfl : fuel = fuel' := Nat.succ.inj hfuel
    split
    · rfl
    · dsimp only
      split
      · next rest _ =>
        have hvalue := h.value depth rest
        split
        · next v heq =>
          rw [heq] at hvalue
          exact Bool.and_eq_true_iff.mpr ⟨hmark _ hvalue, rfl⟩
        · next v rest' heq =>
          rw [heq] at hvalue
          exact Bool.and_eq_true_iff.mpr ⟨hmark _ hvalue, h.members depth false rest'⟩
      · exact Bool.and_eq_true_iff.mpr ⟨hmark _ rfl, rfl⟩
  · rfl

end ReadsFinite

theorem readsFinite (fuel : Nat) : ReadsFinite fuel := by
  induction fuel with
  | zero => exact ReadsFinite.zero
  | succ fuel ih => exact ⟨ih.value_succ, ih.items_succ, ih.itemsFrom_succ, ih.members_succ,
      ih.membersFrom_succ⟩

/-- **A text is read into a tree with finite numbers.** -/
theorem isFinite_read (text : String) : (read text).1.isFinite = true := by
  have hvalue := (readsFinite (3 * text.toList.length + 3)).value 0 text.toList
  unfold read
  dsimp only
  split
  · next v heq =>
    rw [heq] at hvalue
    exact hvalue
  · next v rest heq =>
    rw [heq] at hvalue
    exact hvalue

end JudgeDesk.Json
