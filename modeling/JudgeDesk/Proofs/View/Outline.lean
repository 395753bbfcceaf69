import JudgeDesk.Proofs.View.Due

/-!
# Outlines

What a view orders depends on what is shown and what was asked for, and not on what came of it. The
*outline* of a view is the view without the contents of its slots; orders are read off the outline,
and results leave it alone.

* `Slot.outline`, `SlotSet.outline`, `Tests.outline`, `View.outline` — without contents;
* `View.apply_outline`, `View.outline_attempt` — an intent changes the outline as it changes the
  view, and a result does not change it;
* `View.reconcile_outline`, `View.due_outline` — a pass orders the same from the outline;
* `View.eq_of_outline` — the outline and the slots determine the view.
-/

namespace JudgeDesk

/-- A slot without its content. -/
def Slot.outline (s : Slot) : Slot := { requested := s.requested }

theorem Slot.outline_fulfill (s : Slot) (o : Outcome) : (s.fulfill o).outline = s.outline := by
  rw [outline, outline, requested_fulfill]

/-! ### Sets of slots -/

namespace SlotSet

variable {κ : Type}

/-- A set of slots without their contents. -/
def outline (s : SlotSet κ) : SlotSet κ := { s with slot := fun k => (s.slot k).outline }

theorem outline_toggle (s : SlotSet κ) : s.toggle.outline = s.outline.toggle := rfl

theorem outline_request [DecidableEq κ] (s : SlotSet κ) (k : κ) :
    (s.request k).outline = s.outline.request k := by
  refine congrArg (SlotSet.mk s.shown) (funext fun k' => ?_)
  rw [slot_request]
  split <;> rfl

theorem outline_requestAll [DecidableEq κ] (ks : List κ) (s : SlotSet κ) :
    (s.requestAll ks).outline = s.outline.requestAll ks := by
  unfold requestAll
  induction ks generalizing s with
  | nil => rfl
  | cons k rest ih => rw [List.foldl_cons, List.foldl_cons, ih, outline_request]

/-- A result leaves the outline alone. -/
theorem outline_fulfill [DecidableEq κ] (s : SlotSet κ) (k : κ) (o : Outcome) :
    (s.fulfill k o).outline = s.outline := by
  refine congrArg (SlotSet.mk s.shown) (funext fun k' => ?_)
  rw [slot_fulfill]
  split
  · exact (s.slot k').outline_fulfill o
  · rfl

/-- The outline and the slots determine a set. -/
theorem eq_of_outline {s t : SlotSet κ} (houtline : s.outline = t.outline)
    (hslot : ∀ k, s.slot k = t.slot k) : s = t := by
  obtain ⟨shown, slot⟩ := s
  obtain rfl : shown = t.shown := congrArg SlotSet.shown houtline
  exact congrArg (SlotSet.mk t.shown) (funext hslot)

end SlotSet

/-! ### The compilation -/

namespace Compilation

/-- The pair without its contents. -/
def outline (c : Compilation) : Compilation := { c with set := c.set.outline }

theorem outline_request (c : Compilation) :
    (c.apply .request).outline = c.outline.apply .request :=
  congrArg (Compilation.mk true) (SlotSet.outline_requestAll _ _)

theorem outline_fulfill (c : Compilation) (k : CompilationArtifact) (o : Outcome) :
    (c.apply (.fulfill k o)).outline = c.outline :=
  congrArg (Compilation.mk c.requested) (SlotSet.outline_fulfill _ _ _)

theorem reconcile_outline (c : Compilation) (s : Submission) (generation : UInt64) :
    c.outline.reconcile s generation =
      ((c.reconcile s generation).1.outline, (c.reconcile s generation).2) := by
  have hdue : c.outline.isDue s = c.isDue s := rfl
  unfold reconcile
  rw [hdue]
  split
  · rw [outline_request]
  · rfl

end Compilation

/-! ### Tests -/

namespace Tests

variable {ts : Tests}

/-- The tests without their contents. -/
def outline (ts : Tests) : Tests := ⟨ts.sets.map SlotSet.outline⟩

theorem outline_fresh (count : Nat) : (fresh count).outline = fresh count :=
  congrArg Tests.mk List.map_replicate

theorem position_outline (n : Nat) : ts.outline.position n = ts.position n := by
  have hcount : ts.outline.count = ts.count := List.length_map _
  rw [position, position, hcount]

/-- A change to one set of slots comes to the outlines. -/
theorem map_outline_modify {f f' : TestSlots → TestSlots} (hf : ∀ s, (f s).outline = f' s.outline)
    (sets : List TestSlots) (i : Nat) :
    (sets.modify i f).map SlotSet.outline = (sets.map SlotSet.outline).modify i f' := by
  refine List.ext_getElem? fun j => ?_
  simp only [List.getElem?_map, List.getElem?_modify, Option.map_eq_map, Option.map_map]
  refine Option.map_congr fun s _ => ?_
  simp only [Function.comp_apply]
  split
  · exact hf s
  · rfl

theorem update_outline {f f' : TestSlots → TestSlots} (hf : ∀ s, (f s).outline = f' s.outline)
    (n : Nat) : ts.outline.update n f' = (ts.update n f).map outline := by
  unfold update
  rw [position_outline]
  rcases ts.position n with err | i
  · rfl
  · exact congrArg (fun sets => Except.ok (Tests.mk sets)) (map_outline_modify hf ts.sets i).symm

/-- A change that the outline does not show leaves the outline of all tests alone. -/
theorem outline_updated {f : TestSlots → TestSlots} (hf : ∀ s, (f s).outline = s.outline)
    (n : Nat) : (ts.updated n f).outline = ts.outline := by
  rcases n with _ | i
  · rfl
  · have hid : ∀ s, (f s).outline = id s.outline := hf
    rw [outline, sets_updated_succ, map_outline_modify hid, List.modify_id, outline]

theorem reconcile_outline (s : Submission) (generation : UInt64) :
    ts.outline.reconcile s generation =
      ((ts.reconcile s generation).1.outline, (ts.reconcile s generation).2) := by
  have hfind : ts.outline.sets.findIdx? isPending = ts.sets.findIdx? isPending :=
    List.findIdx?_map ..
  unfold reconcile
  rw [hfind]
  rcases ts.sets.findIdx? isPending with _ | i
  · rfl
  · have hkeys : ts.outline.sets[i]?.map SlotSet.pending = ts.sets[i]?.map SlotSet.pending := by
      rw [outline, List.getElem?_map, Option.map_map]
      rfl
    dsimp only
    rw [hkeys]
    refine congrArg (fun sets => (Tests.mk sets, _)) ?_
    exact (map_outline_modify (SlotSet.outline_requestAll _) ts.sets i).symm

theorem slot?_outline (n : Nat) (k : TestArtifact) :
    ts.outline.slot? n k = (ts.slot? n k).map Slot.outline := by
  rcases n with _ | i
  · rfl
  · rw [slot?_succ, slot?_succ, outline, List.getElem?_map, Option.map_map, Option.map_map]
    rfl

end Tests

/-! ### Views -/

/-- Whether an intent brings a result. -/
def ViewIntent.isResult : ViewIntent → Bool
  | .compilation (.fulfill _ _) => true
  | .test (.fulfill _ _ _) => true
  | .fetched _ => true
  | _ => false

namespace View

variable {v w : View}

/-- **Outline.** A view without the contents of its slots. -/
def outline (v : View) : View :=
  { v with compilation := v.compilation.outline, tests := v.tests.outline }

/-- **An intent that brings no result does to the outline what it does to the view.** -/
theorem apply_outline (v : View) {intent : ViewIntent} (h : intent.isResult = false) :
    v.outline.apply intent = (v.apply intent).map outline := by
  -- tests are changed within a view as they are on their own
  have htests {f f' : TestSlots → TestSlots} (hf : ∀ s, (f s).outline = f' s.outline) (n : Nat) :
      (v.outline.tests.update n f' >>= fun tests => .ok { v.outline with tests }) =
        (v.tests.update n f >>= fun tests => .ok { v with tests }).map outline := by
    rw [outline, Tests.update_outline hf]
    rcases v.tests.update n f with _ | _ <;> rfl
  cases intent with
  | load s =>
    exact congrArg (fun tests => Except.ok { v.load s with tests }) (Tests.outline_fresh _).symm
  | compilation intent =>
    cases intent with
    | toggle => rfl
    | request =>
      exact congrArg (fun compilation => Except.ok { v.outline with compilation })
        v.compilation.outline_request.symm
    | fulfill k o => cases h
  | test intent =>
    cases intent with
    | reset count =>
      exact congrArg (fun tests => Except.ok { v.outline with tests })
        (Tests.outline_fresh _).symm
    | toggle n => exact htests SlotSet.outline_toggle n
    | request n k => exact htests (fun s => s.outline_request k) n
    | fulfill n k o => cases h
  | fetched r => cases h

/-- **A result leaves the outline alone.** -/
theorem outline_attempt (v : View) {intent : ViewIntent} (h : intent.isResult = true) :
    (v.attempt intent).outline = v.outline := by
  have hcompilation (k : CompilationArtifact) (o : Outcome) :
      (v.attempt (.compilation (.fulfill k o))).outline = v.outline :=
    congrArg (fun compilation => { v.outline with compilation })
      (v.compilation.outline_fulfill k o)
  have htest (n : Nat) (k : TestArtifact) (o : Outcome) :
      (v.attempt (.test (.fulfill n k o))).outline = v.outline := by
    rw [attempt_fulfill]
    exact congrArg (fun tests => { v.outline with tests })
      (Tests.outline_updated (fun s => s.outline_fulfill k o) n)
  cases intent with
  | load s => cases h
  | compilation intent =>
    cases intent with
    | fulfill k o => exact hcompilation k o
    | _ => cases h
  | test intent =>
    cases intent with
    | fulfill n k o => exact htest n k o
    | _ => cases h
  | fetched r =>
    rw [attempt_fetched]
    split
    · rcases r.destination with k | ⟨n, k⟩
      · exact hcompilation k r.outcome
      · exact htest n k r.outcome
    · rfl

/-- **A pass orders from the outline what it orders from the view.** -/
theorem reconcile_outline (v : View) :
    v.outline.reconcile = (v.reconcile.1.outline, v.reconcile.2) := by
  rcases hs : v.submission with _ | s
  · rw [reconcile_of_none hs, reconcile_of_none (v := v.outline) hs]
  · simp only [reconcile, outline, hs, Compilation.reconcile_outline, Tests.reconcile_outline]

theorem due_outline (v : View) : v.outline.due = v.due := by
  rw [← map_destination_reconcile, ← map_destination_reconcile, reconcile_outline]

theorem slot?_outline (v : View) (d : Address) :
    v.outline.slot? d = (v.slot? d).map Slot.outline := by
  rcases d with k | ⟨n, k⟩
  · rfl
  · exact Tests.slot?_outline n k

/-- **The outline and the slots determine a view.** -/
theorem eq_of_outline (houtline : v.outline = w.outline)
    (hslot : ∀ {d s t}, v.slot? d = some s → w.slot? d = some t → s = t) : v = w := by
  have hcompilation : v.compilation = w.compilation := by
    have hset : v.compilation.set = w.compilation.set :=
      SlotSet.eq_of_outline (congrArg (·.compilation.set) houtline)
        fun k => hslot (d := .compilation k) rfl rfl
    have hrequested : v.compilation.requested = w.compilation.requested :=
      congrArg (·.compilation.requested) houtline
    exact (congrArg₂ Compilation.mk hrequested hset :)
  have houtlines : v.tests.sets.map SlotSet.outline = w.tests.sets.map SlotSet.outline :=
    congrArg (·.tests.sets) houtline
  have hsets : v.tests.sets = w.tests.sets := by
    have hlength : v.tests.sets.length = w.tests.sets.length := by
      simpa only [List.length_map] using congrArg List.length houtlines
    refine List.ext_getElem hlength fun i hv hw => SlotSet.eq_of_outline ?_ fun k => ?_
    · simpa only [List.getElem?_map, List.getElem?_eq_getElem hv, List.getElem?_eq_getElem hw,
        Option.map_some, Option.some.injEq] using congrArg (·[i]?) houtlines
    · refine hslot (d := .test (i + 1) k) ?_ ?_
      · rw [slot?, Tests.slot?_succ, List.getElem?_eq_getElem hv, Option.map_some]
      · rw [slot?, Tests.slot?_succ, List.getElem?_eq_getElem hw, Option.map_some]
  have hsubmission : v.submission = w.submission := (congrArg View.submission houtline :)
  have hgeneration : v.generation = w.generation := (congrArg View.generation houtline :)
  calc v = ⟨v.submission, v.generation, v.compilation, ⟨v.tests.sets⟩⟩ := rfl
    _ = ⟨w.submission, w.generation, w.compilation, ⟨w.tests.sets⟩⟩ := by
      rw [hsubmission, hgeneration, hcompilation, hsets]
    _ = w := rfl

end View

end JudgeDesk
