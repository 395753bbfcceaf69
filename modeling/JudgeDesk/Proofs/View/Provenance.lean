import JudgeDesk.Proofs.View.Course

/-!
# Where the content of a slot comes from

Somebody shows and hides slots, submissions are loaded, and the judge answers orders: early or late,
once, often or never, and in any order. What stands in a slot is the last answer to an order that
the view gave for it since the last load; answers to older orders never land in it, not even when
the same submission was loaded again.

* `Move`, `Course.play` — what may happen from outside, and runs of it;
* `Course.last?` — the last result for an address since the last load;
* `Slot.Holds` — what a slot holds;
* `Target.IsFor` — what is kept for an address, by its cases, and whose it is;
* `Course.Sourced` — each slot holds the last result for it, and results come from orders;
* `Course.content_play` — so it is in every run, and the order was for what the slot is about.
-/

namespace JudgeDesk

/-! ### Moves -/

/-- **A move** from outside. -/
inductive Move where
  /-- a submission is loaded -/
  | load (submission : Submission)
  /-- the artifacts of the compilation are shown or hidden -/
  | toggleCompilation
  /-- the artifacts of a test are shown or hidden -/
  | toggleTest (test : Nat)
  /-- the artifacts that are due are ordered -/
  | reconcile
  /-- an order comes back, one of all that were given so far, whether or not it did before -/
  | deliver (position : Nat) (outcome : Outcome)

namespace Move

/-- Whether a move loads a submission. -/
def isLoad : Move → Bool
  | .load _ => true
  | _ => false

/-- The step that a move comes to after some orders were given; none if there is no such order. -/
def step? (orders : List Fetch) : Move → Option ViewStep
  | .load s => some (.intent (.load s))
  | .toggleCompilation => some (.intent (.compilation .toggle))
  | .toggleTest n => some (.intent (.test (.toggle n)))
  | .reconcile => some .reconcile
  | .deliver i outcome => (orders[i]?).map fun f => .intent (.fetched (f.complete outcome))

theorem countP_of_step? {orders : List Fetch} {m : Move} {step : ViewStep}
    (h : m.step? orders = some step) :
    [m].countP isLoad = [step].countP ViewStep.isLoad := by
  cases m with
  | deliver i o =>
    obtain ⟨f, -, rfl⟩ := Option.map_eq_some_iff.mp h
    rfl
  | _ =>
    obtain rfl := Option.some.inj h
    rfl

end Move

namespace Course

/-- **The course after a move.** -/
def move (c : Course) (m : Move) : Course :=
  match m.step? c.orders with
  | some step => c.step step
  | none => c

/-- **A run** of moves. -/
def play (c : Course) (moves : List Move) : Course := moves.foldl move c

@[simp] theorem play_concat (c : Course) (moves : List Move) (m : Move) :
    c.play (moves ++ [m]) = (c.play moves).move m := by
  simp only [play, List.foldl_append, List.foldl_cons, List.foldl_nil]

end Course

/-! ### What is kept for an address -/

/-- **What the judge keeps for an address** of a submission. Input and answer of a test are the
problem's, everything else is the submission's own. -/
structure Target.IsFor (t : Target) (s : Submission) (d : Address) : Prop where
  /-- the source is that of the submission -/
  source : d = .compilation .source → t = .submissionSource s.id
  /-- what the compiler said is about the submission -/
  compileOutput : d = .compilation .compilationOutput → t = .compileOutput s.id
  /-- input and answer are those of the same test of the problem -/
  ofProblem : ∀ n, ∀ k ∈ [TestArtifact.input, .answer],
    d = .test n k → t = .problemTest s.problemId n k
  /-- the output, and what the checker and the solution itself had to say, are those of the same
  test of the submission -/
  ofSubmission : ∀ n, ∀ k ∈ [TestArtifact.output, .checker, .stderr],
    d = .test n k → t = .submissionTest s.id n k

/-- **What is fetched for an address** is what the judge keeps for it. -/
theorem Address.isFor_target (s : Submission) (d : Address) : (d.target s).IsFor s d := by
  refine ⟨?_, ?_, fun n k hk => ?_, fun n k hk => ?_⟩
  · rintro rfl
    rfl
  · rintro rfl
    rfl
  · rintro rfl
    rcases List.mem_pair.mp hk with rfl | rfl <;> rfl
  · rintro rfl
    simp only [List.mem_cons, List.not_mem_nil, or_false] at hk
    rcases hk with rfl | rfl | rfl <;> rfl

/-! ### What a slot holds -/

/-- **What a slot holds**: nothing, a file alone or a message alone. -/
def Slot.Holds (s : Slot) : Option Outcome → Prop
  | none => s.data = none ∧ s.error = none
  | some (.ok file) => s.data = some file ∧ s.error = none
  | some (.error message) => s.data = none ∧ s.error = some message

namespace Slot

variable {s : Slot} {content : Option Outcome}

theorem holds_blank : Slot.Holds {} none := ⟨rfl, rfl⟩

theorem holds_fulfill (s : Slot) (o : Outcome) : (s.fulfill o).Holds (some o) := by
  cases o <;> exact ⟨rfl, rfl⟩

/-- Asking for an artifact leaves the content of its slot alone. -/
theorem Holds.request (h : s.Holds content) : s.request.Holds content := by
  rcases content with _ | _ | _ <;> exact h

end Slot

/-! ### The last result -/

namespace Course

variable {loads : Nat} {c : Course} {d : Address}

/-- **The last result** for an address of what is shown, since the last load. -/
def last? (c : Course) (d : Address) : Option FetchResult := c.arrivals.find? (c.view.concerns d)

theorem last?_congr {c' : Course} (harrivals : c'.arrivals = c.arrivals)
    (hsubmission : c'.view.submission = c.view.submission)
    (hgeneration : c'.view.generation = c.view.generation) : c'.last? d = c.last? d := by
  rw [last?, last?, harrivals, View.concerns_congr hsubmission hgeneration]

/-- **Sources.** Every result since the last load is that of an order, and each slot holds the last
result for it. -/
structure Sourced (c : Course) : Prop where
  /-- every result is that of an order -/
  genuine : ∀ r ∈ c.arrivals, ∃ f ∈ c.orders, r = f.complete r.outcome
  /-- each slot holds the last result for it -/
  held : ∀ {d slot}, c.view.slot? d = some slot → slot.Holds ((c.last? d).map (·.outcome))

theorem sourced_load (c : Course) (s : Submission) : (c.step (.intent (.load s))).Sourced := by
  refine ⟨fun r hr => absurd hr List.not_mem_nil, fun {d slot} hslot => ?_⟩
  rw [View.eq_blank_of_slot?_load hslot]
  exact Slot.holds_blank

theorem Sourced.reconcile (h : c.Sourced) : (c.step .reconcile).Sourced := by
  constructor
  · intro r hr
    obtain ⟨f, hf, heq⟩ := h.genuine r hr
    exact ⟨f, List.mem_append_left _ hf, heq⟩
  · intro d slot hslot
    obtain ⟨before, hbefore, rfl⟩ := View.exists_of_slot?_reconcile hslot
    have hlast : (c.step .reconcile).last? d = c.last? d :=
      last?_congr rfl c.view.reconcile_frame.1 c.view.reconcile_frame.2
    rw [hlast]
    split
    · exact (h.held hbefore).request
    · exact h.held hbefore

/-- An intent that leaves every slot alone, and brings no result, leaves the sources alone. -/
theorem Sourced.of_change_eq (h : c.Sourced) (intent : ViewIntent)
    (hover : intent.startsOver = false) (hchange : ∀ d s, c.view.change intent d s = s) :
    Sourced { c with view := c.view.attempt intent } := by
  refine ⟨h.genuine, fun {d slot} hslot => ?_⟩
  obtain ⟨before, hbefore, rfl⟩ := View.exists_of_slot?_attempt hover hslot
  obtain ⟨hsubmission, hgeneration, -⟩ := c.view.attempt_frame (ViewIntent.ne_load hover)
  have hlast : last? { c with view := c.view.attempt intent } d = c.last? d :=
    last?_congr rfl hsubmission hgeneration
  rw [hlast, hchange]
  exact h.held hbefore

/-- **A result lands in the slot that it is for**, or nowhere. -/
theorem Sourced.deliver (h : c.Sourced) {f : Fetch} (hf : f ∈ c.orders) (o : Outcome) :
    (c.step (.intent (.fetched (f.complete o)))).Sourced := by
  constructor
  · intro r hr
    rcases List.mem_cons.mp hr with rfl | hr
    · exact ⟨f, hf, rfl⟩
    · exact h.genuine r hr
  · intro d slot hslot
    have hover : (ViewIntent.fetched (f.complete o)).startsOver = false := rfl
    obtain ⟨before, hbefore, rfl⟩ := View.exists_of_slot?_attempt hover hslot
    obtain ⟨hsubmission, hgeneration, -⟩ := c.view.attempt_frame (ViewIntent.ne_load hover)
    rw [View.change_fetched]
    change Slot.Holds _ (((f.complete o :: c.arrivals).find?
      ((c.view.attempt (.fetched (f.complete o))).concerns d)).map (·.outcome))
    rw [View.concerns_congr hsubmission hgeneration]
    by_cases hconcerns : c.view.concerns d (f.complete o) = true
    · rw [if_pos hconcerns, List.find?_cons_of_pos hconcerns]
      exact Slot.holds_fulfill before o
    · rw [if_neg hconcerns, List.find?_cons_of_neg hconcerns]
      exact h.held hbefore

theorem sourced_move (h : c.Sourced) (m : Move) : (c.move m).Sourced := by
  cases m with
  | load s => exact c.sourced_load s
  | toggleCompilation =>
    exact h.of_change_eq (.compilation .toggle) rfl fun d s => rfl
  | toggleTest n => exact h.of_change_eq (.test (.toggle n)) rfl fun d s => rfl
  | reconcile => exact h.reconcile
  | deliver i o =>
    rcases hi : c.orders[i]? with _ | f
    · simpa only [move, Move.step?, hi, Option.map_none] using h
    · simpa only [move, Move.step?, hi, Option.map_some] using h.deliver (List.mem_of_getElem? hi) o

theorem stamped_move (h : c.view.Stamped loads c.orders) (m : Move)
    (hloads : loads + [m].countP Move.isLoad < UInt64.size) :
    (c.move m).view.Stamped (loads + [m].countP Move.isLoad) (c.move m).orders := by
  rcases hstep : m.step? c.orders with _ | step
  · have hnone : [m].countP Move.isLoad = 0 := by
      cases m with
      | deliver i o => rfl
      | _ => cases hstep
    rw [hnone, Nat.add_zero]
    simpa only [move, hstep] using h
  · have hcount := Move.countP_of_step? hstep
    rw [hcount] at hloads ⊢
    simpa only [move, hstep] using stamped_step h step hloads

/-! ### Runs -/

theorem sourced_play (moves : List Move) : (play {} moves).Sourced := by
  induction moves using List.reverseRecOn with
  | nil =>
    refine ⟨fun r hr => absurd hr List.not_mem_nil, fun {d slot} hslot => ?_⟩
    rw [View.eq_blank_of_slot?_blank hslot]
    exact Slot.holds_blank
  | append_singleton moves m ih =>
    rw [play_concat]
    exact sourced_move ih m

theorem stamped_play (moves : List Move) (hloads : moves.countP Move.isLoad < UInt64.size) :
    (play {} moves).view.Stamped (moves.countP Move.isLoad) (play {} moves).orders := by
  induction moves using List.reverseRecOn with
  | nil => exact View.stamped_blank
  | append_singleton moves m ih =>
    rw [List.countP_append] at hloads ⊢
    rw [play_concat]
    exact stamped_move (ih (by omega)) m hloads

/-- **Where content comes from.** After any moves a slot holds the outcome of the last result for it
since the last load, and nothing if there was none. That result is the answer to an order of the
run, and every order that it can be the answer to was given for this address in this generation, and
for what the judge keeps for it of the submission that is shown, or of its problem. -/
theorem content_play (moves : List Move) (hloads : moves.countP Move.isLoad < UInt64.size)
    {d : Address} {slot : Slot} (hslot : (play {} moves).view.slot? d = some slot) :
    slot.Holds (((play {} moves).last? d).map (·.outcome)) ∧
      ∀ r, (play {} moves).last? d = some r → ∃ s, (play {} moves).view.submission = some s ∧
        (∃ f ∈ (play {} moves).orders, r = f.complete r.outcome) ∧
        ∀ f ∈ (play {} moves).orders, r = f.complete r.outcome →
          f.destination = d ∧ f.generation = (play {} moves).view.generation ∧
            f.submissionId = s.id ∧ f.target.IsFor s d := by
  have hstamped := stamped_play moves hloads
  have hsourced := sourced_play moves
  refine ⟨hsourced.held hslot, fun r hr => ?_⟩
  obtain ⟨f, hf, heq⟩ := hsourced.genuine r (List.mem_of_find?_eq_some hr)
  have hconcerns := List.find?_some hr
  simp only [View.concerns, Bool.and_eq_true, decide_eq_true_iff] at hconcerns
  obtain ⟨⟨hdest, hgen⟩, -⟩ := hconcerns
  -- any order behind the result has its stamps, and the stamps of this generation are right
  have horder {g : Fetch} (hg : g ∈ (play {} moves).orders) (hgr : r = g.complete r.outcome) :
      ∃ s, (play {} moves).view.submission = some s ∧
        g = Fetch.order s (play {} moves).view.generation d := by
    rw [hgr] at hdest hgen
    obtain ⟨s, hs, hg⟩ := hstamped.current g hg hgen
    exact ⟨s, hs, hg.trans (congrArg _ hdest)⟩
  obtain ⟨s, hs, -⟩ := horder hf heq
  refine ⟨s, hs, ⟨f, hf, heq⟩, fun g hg hgr => ?_⟩
  obtain ⟨s', hs', rfl⟩ := horder hg hgr
  obtain rfl := Option.some.inj (hs.symm.trans hs')
  exact ⟨rfl, rfl, rfl, d.isFor_target s⟩

/-- A run in which an order comes back after its submission was loaded again, the order that took
its place comes back twice, and so does, once, the input of a test. -/
def answeredTwice : List Move :=
  [.load (.ofOneTest 7), .toggleCompilation, .reconcile, .load (.ofOneTest 7), .toggleCompilation,
    .toggleTest 1, .reconcile, .deliver 2 (.ok (.ofText "int main")), .deliver 2 (.error "gone"),
    .deliver 4 (.ok (.ofText "1 2")), .deliver 0 (.ok (.ofText "void main"))]

theorem content_answeredTwice :
    (∃ r, (play {} answeredTwice).last? (.compilation .source) = some r ∧
      r.outcome = .error "gone" ∧
      (∃ slot, (play {} answeredTwice).view.slot? (.compilation .source) = some slot ∧
        slot.Holds (some r.outcome)) ∧
      (∃ f ∈ (play {} answeredTwice).orders, r = f.complete r.outcome) ∧
      ∀ f ∈ (play {} answeredTwice).orders, r = f.complete r.outcome →
        f.destination = .compilation .source ∧ f.generation = 2 ∧ f.submissionId = 7 ∧
          f.target = .submissionSource 7) ∧
    ∃ r, (play {} answeredTwice).last? (.test 1 .input) = some r ∧
      r.outcome = .ok (.ofText "1 2") ∧
      (∃ slot, (play {} answeredTwice).view.slot? (.test 1 .input) = some slot ∧
        slot.Holds (some r.outcome)) ∧
      (∃ f ∈ (play {} answeredTwice).orders, r = f.complete r.outcome) ∧
      ∀ f ∈ (play {} answeredTwice).orders, r = f.complete r.outcome →
        f.destination = .test 1 .input ∧ f.generation = 2 ∧ f.submissionId = 7 ∧
          f.target = .problemTest 1 1 .input := by
  have hloads : answeredTwice.countP Move.isLoad < UInt64.size := by decide
  have hgeneration : (play {} answeredTwice).view.generation = 2 := rfl
  have hsource : (play {} answeredTwice).last? (.compilation .source) =
      some ⟨7, 2, .compilation .source, .error "gone"⟩ := rfl
  have hinput : (play {} answeredTwice).last? (.test 1 .input) =
      some ⟨7, 2, .test 1 .input, .ok (.ofText "1 2")⟩ := rfl
  have hsourceSlot : (play {} answeredTwice).view.slot? (.compilation .source) =
      some { error := some "gone", requested := true } := rfl
  have hinputSlot : (play {} answeredTwice).view.slot? (.test 1 .input) =
      some { data := some (.ofText "1 2"), requested := true } := rfl
  constructor
  · obtain ⟨hholds, hlast⟩ := content_play answeredTwice hloads hsourceSlot
    obtain ⟨s, hs, hf, horders⟩ := hlast _ hsource
    obtain rfl : Submission.ofOneTest 7 = s := Option.some.inj hs
    rw [hsource] at hholds
    refine ⟨_, hsource, rfl, ⟨_, hsourceSlot, hholds⟩, hf, fun f hf hr => ?_⟩
    obtain ⟨hdest, hgen, hid, htarget⟩ := horders f hf hr
    exact ⟨hdest, hgen.trans hgeneration, hid, htarget.source rfl⟩
  · obtain ⟨hholds, hlast⟩ := content_play answeredTwice hloads hinputSlot
    obtain ⟨s, hs, hf, horders⟩ := hlast _ hinput
    obtain rfl : Submission.ofOneTest 7 = s := Option.some.inj hs
    rw [hinput] at hholds
    refine ⟨_, hinput, rfl, ⟨_, hinputSlot, hholds⟩, hf, fun f hf hr => ?_⟩
    obtain ⟨hdest, hgen, hid, htarget⟩ := horders f hf hr
    exact ⟨hdest, hgen.trans hgeneration, hid, htarget.ofProblem 1 .input List.mem_cons_self rfl⟩

end Course

end JudgeDesk
