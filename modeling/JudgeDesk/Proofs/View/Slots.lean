import Mathlib.Data.List.Basic
import JudgeDesk.View.Basic

/-!
# The slots of a view

A view is read one address at a time: `View.slot?` is the slot at an address, if the view has one
there. What happens to a view is told by what happens to the slot at each address.

* `Tests.slot?`, `View.slot?` — the slot at an address;
* `View.attempt` — the view after an intent, refused or not;
* `View.change`, `View.slot?_attempt` — what an intent does to the slot at each address, unless it
  starts over;
* `View.eq_blank_of_slot?_load` — after loading every slot is blank;
* `View.isAsked` — whether an artifact was asked for; it stays so until something starts over.
-/

namespace JudgeDesk

/-! ### Sets of slots -/

@[simp] theorem Slot.requested_fulfill (s : Slot) (o : Outcome) :
    (s.fulfill o).requested = s.requested := by
  cases o <;> rfl

namespace SlotSet

variable {κ : Type} [DecidableEq κ]

theorem slot_request (s : SlotSet κ) (k k' : κ) :
    (s.request k).slot k' = if k' = k then (s.slot k').request else s.slot k' := rfl

theorem slot_fulfill (s : SlotSet κ) (k k' : κ) (o : Outcome) :
    (s.fulfill k o).slot k' = if k' = k then (s.slot k').fulfill o else s.slot k' := rfl

/-- Asking for several artifacts marks their slots and no others. -/
theorem slot_requestAll (ks : List κ) (s : SlotSet κ) (k : κ) :
    (s.requestAll ks).slot k = if k ∈ ks then (s.slot k).request else s.slot k := by
  unfold requestAll
  induction ks generalizing s with
  | nil => rw [List.foldl_nil, if_neg List.not_mem_nil]
  | cons k₀ rest ih =>
    -- an artifact that is asked for twice is marked all the same
    rw [List.foldl_cons, ih, slot_request]
    by_cases h₀ : k = k₀
    · subst h₀
      rw [if_pos rfl, if_pos List.mem_cons_self]
      split <;> rfl
    · rw [if_neg h₀]
      simp only [List.mem_cons, h₀, false_or]

end SlotSet

/-! ### Tests -/

namespace Tests

variable {ts : Tests}

/-- **The slot of an artifact of a test**, if there is such a test. -/
def slot? (ts : Tests) (n : Nat) (k : TestArtifact) : Option Slot :=
  (ts.test n).toOption.map (·.slot k)

@[simp] theorem toOption_test_succ (i : Nat) : (ts.test (i + 1)).toOption = ts.sets[i]? := by
  unfold test position count
  by_cases h : i < ts.sets.length
  · rw [if_pos ⟨by omega, h⟩, List.getElem?_eq_getElem h]
    simp only [bind, Except.bind, pure, Except.pure, Except.toOption, Nat.add_sub_cancel,
      List.getElem?_eq_getElem h, Option.getD_some]
  · rw [if_neg (by omega), List.getElem?_eq_none (by omega)]
    rfl

@[simp] theorem slot?_succ (i : Nat) (k : TestArtifact) :
    ts.slot? (i + 1) k = (ts.sets[i]?).map (·.slot k) := by
  rw [slot?, toOption_test_succ]

/-- All tests after a change to one of them, or as they were if there is no such test. -/
def updated (ts : Tests) (n : Nat) (f : TestSlots → TestSlots) : Tests :=
  match ts.update n f with
  | .ok ts' => ts'
  | .error _ => ts

@[simp] theorem updated_zero (f : TestSlots → TestSlots) : ts.updated 0 f = ts := rfl

@[simp] theorem sets_updated_succ (i : Nat) (f : TestSlots → TestSlots) :
    (ts.updated (i + 1) f).sets = ts.sets.modify i f := by
  unfold updated update position count
  by_cases h : i < ts.sets.length
  · rw [if_pos ⟨by omega, h⟩]
    rfl
  · rw [if_neg (by omega), List.modify_eq_self (by omega)]
    rfl

/-- A change to the slots of one test, slot by slot. -/
theorem slot?_updated {f : TestSlots → TestSlots} {F : TestArtifact → Slot → Slot}
    (hf : ∀ s k, (f s).slot k = F k (s.slot k)) (n m : Nat) (k : TestArtifact) :
    (ts.updated n f).slot? m k = (ts.slot? m k).map fun s => if m = n then F k s else s := by
  rcases n with _ | i <;> rcases m with _ | j
  · rfl
  · simp only [updated_zero, if_neg (Nat.succ_ne_zero j), Option.map_id']
  · rfl
  · rw [slot?_succ, slot?_succ, sets_updated_succ, List.getElem?_modify, Option.map_eq_map,
      Option.map_map, Option.map_map]
    refine Option.map_congr fun s _ => ?_
    by_cases h : i = j
    · simp only [Function.comp_apply, if_pos h, if_pos (congrArg (· + 1) h.symm), hf]
    · simp only [Function.comp_apply, if_neg h, if_neg (show ¬j + 1 = i + 1 by omega)]

theorem eq_blank_of_slot?_fresh (count n : Nat) (k : TestArtifact) {s : Slot}
    (h : (fresh count).slot? n k = some s) : s = {} := by
  rcases n with _ | i
  · cases h
  · rw [slot?_succ, Option.map_eq_some_iff] at h
    obtain ⟨set, hset, rfl⟩ := h
    rw [List.eq_of_mem_replicate (List.mem_of_getElem? hset)]

end Tests

/-! ### Views -/

/-- Whether an intent starts over with slots that were never asked for. -/
def ViewIntent.startsOver : ViewIntent → Bool
  | .load _ => true
  | .test (.reset _) => true
  | _ => false

/-- Whether an intent asks for the pair of the compilation. -/
def ViewIntent.asksForPair : ViewIntent → Bool
  | .compilation .request => true
  | _ => false

theorem ViewIntent.ne_load {intent : ViewIntent} (h : intent.startsOver = false) (s : Submission) :
    intent ≠ .load s := by
  rintro rfl
  cases h

/-- A change to the slot at one address only. -/
def Address.only (a : Address) (f : Slot → Slot) (d : Address) (s : Slot) : Slot :=
  if d = a then f s else s

namespace View

/-- **The slot at an address**, if the view has one there. -/
def slot? (v : View) : Address → Option Slot
  | .compilation k => some (v.compilation.set.slot k)
  | .test n k => v.tests.slot? n k

/-- **The view after an intent**; an intent that is refused leaves it as it was. -/
def attempt (v : View) (intent : ViewIntent) : View :=
  match v.apply intent with
  | .ok v' => v'
  | .error _ => v

theorem attempt_of_ok {v v' : View} {intent : ViewIntent} (h : v.apply intent = .ok v') :
    v.attempt intent = v' := by
  rw [attempt, h]

/-! Tests are changed within a view as they are on their own. -/

theorem attempt_toggle (v : View) (n : Nat) :
    v.attempt (.test (.toggle n)) = { v with tests := v.tests.updated n SlotSet.toggle } := by
  simp only [attempt, apply, Tests.apply, Tests.updated]
  rcases v.tests.update n SlotSet.toggle with _ | _ <;> rfl

theorem attempt_request (v : View) (n : Nat) (k : TestArtifact) :
    v.attempt (.test (.request n k)) = { v with tests := v.tests.updated n (·.request k) } := by
  simp only [attempt, apply, Tests.apply, Tests.updated]
  rcases v.tests.update n (·.request k) with _ | _ <;> rfl

theorem attempt_fulfill (v : View) (n : Nat) (k : TestArtifact) (o : Outcome) :
    v.attempt (.test (.fulfill n k o)) =
      { v with tests := v.tests.updated n (·.fulfill k o) } := by
  simp only [attempt, apply, Tests.apply, Tests.updated]
  rcases v.tests.update n (·.fulfill k o) with _ | _ <;> rfl

/-- A result comes to what it is about: an outcome for one slot, or nothing at all. -/
theorem attempt_fetched (v : View) (r : FetchResult) :
    v.attempt (.fetched r) =
      if v.accepts r then
        match r.destination with
        | .compilation k => v.attempt (.compilation (.fulfill k r.outcome))
        | .test n k => v.attempt (.test (.fulfill n k r.outcome))
      else v := by
  by_cases hr : v.accepts r
  · rw [if_pos hr]
    rcases hd : r.destination with k | ⟨n, k⟩ <;> simp only [attempt, apply, if_pos hr, deliver, hd]
  · rw [if_neg hr]
    simp only [attempt, apply, if_neg hr]

/-- **What an intent does to the slot at an address**, if it does not start over. -/
def change (v : View) : ViewIntent → Address → Slot → Slot
  | .compilation .request, .compilation _, s => s.request
  | .compilation (.fulfill k o), d, s => Address.only (.compilation k) (·.fulfill o) d s
  | .test (.request n k), d, s => Address.only (.test n k) Slot.request d s
  | .test (.fulfill n k o), d, s => Address.only (.test n k) (·.fulfill o) d s
  | .fetched r, d, s =>
    if v.accepts r then Address.only r.destination (·.fulfill r.outcome) d s else s
  | _, _, s => s

theorem slot?_updated_only (v : View) (n : Nat) (k : TestArtifact) {f : TestSlots → TestSlots}
    {F : Slot → Slot} (hf : ∀ s k', (f s).slot k' = if k' = k then F (s.slot k') else s.slot k')
    (d : Address) :
    ({ v with tests := v.tests.updated n f } : View).slot? d =
      (v.slot? d).map (Address.only (.test n k) F d) := by
  rcases d with k' | ⟨m, k'⟩
  · rfl
  · rw [slot?, Tests.slot?_updated (F := fun k' s => if k' = k then F s else s) hf]
    refine Option.map_congr fun s _ => ?_
    simp only [Address.only, Address.test.injEq]
    split_ifs <;> grind

theorem slot?_attempt_compilation (v : View) (intent : CompilationIntent) (d : Address) :
    (v.attempt (.compilation intent)).slot? d =
      (v.slot? d).map (v.change (.compilation intent) d) := by
  rcases d with k | ⟨n, k⟩
  · cases intent with
    | toggle => rfl
    | request =>
      refine congrArg some ?_
      exact (SlotSet.slot_requestAll _ _ _).trans (if_pos (Artifact.mem_all k))
    | fulfill k₀ o =>
      refine congrArg some ((SlotSet.slot_fulfill _ _ _ _).trans ?_)
      simp only [change, Address.only, Address.compilation.injEq]
  · cases intent <;> exact Option.map_id'.symm

theorem slot?_attempt_test (v : View) {intent : TestIntent}
    (h : (ViewIntent.test intent).startsOver = false) (d : Address) :
    (v.attempt (.test intent)).slot? d = (v.slot? d).map (v.change (.test intent) d) := by
  cases intent with
  | reset count => cases h
  | toggle n =>
    rw [attempt_toggle]
    rcases d with k | ⟨m, k⟩
    · rfl
    · refine (Tests.slot?_updated (f := SlotSet.toggle) (F := fun _ s => s) (fun _ _ => rfl)
        n m k).trans ?_
      exact Option.map_congr fun s _ => ite_self s
  | request n k =>
    rw [attempt_request]
    exact slot?_updated_only v n k (fun s k' => s.slot_request k k') d
  | fulfill n k o =>
    rw [attempt_fulfill]
    exact slot?_updated_only v n k (fun s k' => s.slot_fulfill k k' o) d

/-- **What an intent does to the slots**: each slot changes as `change` says, whether the intent is
refused or not, and no slot comes or goes. -/
theorem slot?_attempt (v : View) {intent : ViewIntent} (h : intent.startsOver = false)
    (d : Address) : (v.attempt intent).slot? d = (v.slot? d).map (v.change intent d) := by
  cases intent with
  | load s => cases h
  | compilation intent => exact v.slot?_attempt_compilation intent d
  | test intent => exact v.slot?_attempt_test h d
  | fetched r =>
    rw [attempt_fetched]
    by_cases hr : v.accepts r
    · rw [if_pos hr]
      rcases hd : r.destination with k | ⟨n, k⟩
      · refine (v.slot?_attempt_compilation (.fulfill k r.outcome) d).trans ?_
        exact Option.map_congr fun s _ => by simp only [change, if_pos hr, hd]
      · have htest : (ViewIntent.test (.fulfill n k r.outcome)).startsOver = false := rfl
        refine (v.slot?_attempt_test htest d).trans ?_
        exact Option.map_congr fun s _ => by simp only [change, if_pos hr, hd]
    · rw [if_neg hr]
      have hid : v.change (.fetched r) d = id :=
        funext fun s => by simp only [change, if_neg hr, id]
      rw [hid, Option.map_id, id]

/-- A slot after an intent is one that was there before, changed as `change` says. -/
theorem exists_of_slot?_attempt {v : View} {intent : ViewIntent}
    (hover : intent.startsOver = false) {d : Address} {slot : Slot}
    (h : (v.attempt intent).slot? d = some slot) :
    ∃ before, v.slot? d = some before ∧ slot = v.change intent d before := by
  rw [v.slot?_attempt hover, Option.map_eq_some_iff] at h
  obtain ⟨before, hbefore, heq⟩ := h
  exact ⟨before, hbefore, heq.symm⟩

/-! ### What stays -/

/-- Refused or not, an intent for the tests changes nothing but the tests. -/
theorem exists_attempt_test (v : View) (intent : TestIntent) :
    ∃ tests, v.attempt (.test intent) = { v with tests } := by
  simp only [attempt, apply]
  rcases v.tests.apply intent with _ | tests
  · exact ⟨v.tests, rfl⟩
  · exact ⟨tests, rfl⟩

/-- Only loading changes the submission and the generation, and only asking for the pair of the
compilation sets its mark. -/
theorem attempt_frame (v : View) {intent : ViewIntent} (h : ∀ s, intent ≠ .load s) :
    (v.attempt intent).submission = v.submission ∧
      (v.attempt intent).generation = v.generation ∧
      (v.attempt intent).compilation.requested =
        (v.compilation.requested || intent.asksForPair) := by
  cases intent with
  | load s => exact absurd rfl (h s)
  | compilation i =>
    refine ⟨rfl, rfl, ?_⟩
    cases i with
    | request => exact (Bool.or_true _).symm
    | _ => exact (Bool.or_false _).symm
  | test i =>
    obtain ⟨tests, heq⟩ := v.exists_attempt_test i
    rw [heq]
    exact ⟨rfl, rfl, (Bool.or_false _).symm⟩
  | fetched r =>
    rw [attempt_fetched]
    split
    · rcases r.destination with k | ⟨n, k⟩
      · exact ⟨rfl, rfl, (Bool.or_false _).symm⟩
      · obtain ⟨tests, heq⟩ := v.exists_attempt_test (.fulfill n k r.outcome)
        dsimp only
        rw [heq]
        exact ⟨rfl, rfl, (Bool.or_false _).symm⟩
    · exact ⟨rfl, rfl, (Bool.or_false _).symm⟩

/-- Before anything happens every slot is blank. -/
theorem eq_blank_of_slot?_blank {d : Address} {slot : Slot} (h : slot? {} d = some slot) :
    slot = {} := by
  rcases d with k | ⟨n, k⟩
  · exact (Option.some.inj h).symm
  · cases n <;> cases h

/-- **After loading every slot is blank.** -/
theorem eq_blank_of_slot?_load {v : View} {s : Submission} {d : Address} {slot : Slot}
    (h : (v.load s).slot? d = some slot) : slot = {} := by
  rcases d with k | ⟨n, k⟩
  · exact (Option.some.inj h).symm
  · exact Tests.eq_blank_of_slot?_fresh s.testsCount n k h

/-- **Whether an artifact was asked for.** The artifacts of the compilation share the mark of their
pair. -/
def isAsked (v : View) : Address → Bool
  | .compilation _ => v.compilation.requested
  | .test n k => (v.tests.slot? n k).any (·.requested)

theorem requested_eq_isAsked_test {v : View} {n : Nat} {k : TestArtifact} {slot : Slot}
    (h : v.slot? (.test n k) = some slot) : slot.requested = v.isAsked (.test n k) := by
  change v.tests.slot? n k = some slot at h
  rw [isAsked, h, Option.any_some]

/-- A slot that is marked as asked for stays so. -/
theorem requested_change (v : View) (intent : ViewIntent) (d : Address) {s : Slot}
    (h : s.requested = true) : (v.change intent d s).requested = true := by
  have honly (a : Address) (o : Outcome) :
      (Address.only a (·.fulfill o) d s).requested = true := by
    unfold Address.only
    split
    · rw [Slot.requested_fulfill, h]
    · exact h
  unfold change
  split
  · rfl
  · exact honly _ _
  · unfold Address.only
    split
    · rfl
    · exact h
  · exact honly _ _
  · split
    · exact honly _ _
    · exact h
  · exact h

/-- **What was asked for stays so**, until something starts over. -/
theorem isAsked_attempt {v : View} {intent : ViewIntent} (h : intent.startsOver = false)
    {d : Address} (hd : v.isAsked d = true) : (v.attempt intent).isAsked d = true := by
  rcases d with k | ⟨n, k⟩
  · change v.compilation.requested = true at hd
    change (v.attempt intent).compilation.requested = true
    rw [(v.attempt_frame (ViewIntent.ne_load h)).2.2, hd, Bool.true_or]
  · have hslot := v.slot?_attempt h (.test n k)
    simp only [slot?] at hslot
    rw [isAsked, Option.any_eq_true] at hd ⊢
    obtain ⟨s, hs, hreq⟩ := hd
    refine ⟨_, ?_, v.requested_change intent (.test n k) hreq⟩
    rw [hslot, hs, Option.map_some]

end View

end JudgeDesk
