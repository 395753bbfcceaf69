import JudgeDesk.Proofs.View.Outline
import JudgeDesk.Proofs.View.Provenance
import JudgeDesk.Proofs.Viewer.Rest

/-!
# Downloads end in any order

When a download ends is a matter of chance: before other downloads or after them, before the
submission is loaded again or long afterwards. Once the orders of the last load have all come back,
nothing of this shows. Only the steps of the user count, and what comes of each order.

* `View.outline_receive`, `View.outline_receive_fetched` — orders and outlines follow the steps of
  the user, and results leave both alone;
* `ViewerTurn`, `Viewing`, `Viewing.play` — what happens to a viewer whose orders come back with
  outcomes that are settled beforehand, and all orders that it gives;
* `View.Answered`, `View.concluded_of_settled` — a slot holds nothing or the outcome of its order,
  and in the end whether it was asked for tells which;
* `Viewing.view_eq_of_same_steps` — the same steps lead to the same orders and the same view.

A run is compared with the one in which no order ever comes back: the outlines of the views are the
same, as a view at rest stays at rest when a result comes.
-/

namespace JudgeDesk

/-! ### Messages and outlines -/

namespace View

variable {v : View} {intent : ViewIntent}

/-- A message that brings no result does to the outline what it does to the view. -/
theorem outline_receive (v : View) (h : intent.isResult = false) :
    v.outline.receive intent = ((v.receive intent).1.outline, (v.receive intent).2) := by
  unfold receive
  rw [apply_outline v h]
  rcases v.apply intent with err | v'
  · rfl
  · exact reconcile_outline v'

/-- **A result changes neither the outline nor what was ordered.** -/
theorem outline_receive_fetched (h : v.due = []) (r : FetchResult) :
    (v.receive (.fetched r)).1.outline = v.outline ∧ (v.receive (.fetched r)).2 = [] := by
  have houtline : (v.attempt (.fetched r)).outline = v.outline := v.outline_attempt rfl
  have hdue : (v.attempt (.fetched r)).due = [] := by
    rw [← due_outline, houtline, due_outline, h]
  rw [receive_eq h, reconcile_of_due hdue]
  exact ⟨houtline, rfl⟩

end View

/-! ### Turns -/

/-- **What comes of every order**, by the generation of the view that gave it and by its
address. -/
abbrev Outcomes := UInt64 → Address → Outcome

/-- The result of an order, as it is settled beforehand. -/
def Outcomes.result (outcomes : Outcomes) (f : Fetch) : FetchResult :=
  f.complete (outcomes f.generation f.destination)

/-- **A turn** in the life of a viewer. -/
inductive ViewerTurn where
  /-- the artifacts of the compilation are shown or hidden -/
  | toggleCompilation
  /-- the artifacts of a test are shown or hidden -/
  | toggleTest (test : Nat)
  /-- the submission is asked for and comes -/
  | load (submission : Submission)
  /-- the order at a position of those outstanding comes back -/
  | finish (position : Nat)

namespace ViewerTurn

/-- Whether a turn is a step of the user. -/
def isStep : ViewerTurn → Bool
  | .finish _ => false
  | _ => true

/-- Whether a turn loads a submission. -/
def isLoad : ViewerTurn → Bool
  | .load _ => true
  | _ => false

/-- The event that a turn comes to; none if no order is outstanding at its position. -/
def event? (outcomes : Outcomes) (outstanding : List Fetch) : ViewerTurn → Option ViewerEvent
  | .toggleCompilation => some .toggleCompilation
  | .toggleTest n => some (.toggleTest n)
  | .load s => some (.reload (.ok s) 0 0)
  | .finish i => outstanding[i]?.map fun f => .finish i (outcomes f.generation f.destination)

/-- The message that a turn comes to. -/
def message? (outcomes : Outcomes) (outstanding : List Fetch) : ViewerTurn → Option ViewIntent
  | .toggleCompilation => some (.compilation .toggle)
  | .toggleTest n => some (.test (.toggle n))
  | .load s => some (.load s)
  | .finish i => outstanding[i]?.map fun f => .fetched (outcomes.result f)

variable {outcomes : Outcomes} {t : ViewerTurn}

/-- A step of the user is the same message whatever is outstanding, and no result. -/
theorem exists_message_of_isStep (outcomes : Outcomes) (h : t.isStep = true) :
    ∃ intent, intent.isResult = false ∧
      ∀ outstanding, t.message? outcomes outstanding = some intent := by
  cases t with
  | finish i => cases h
  | _ => exact ⟨_, rfl, fun _ => rfl⟩

/-- Any other message is the result of an order that is outstanding. -/
theorem exists_order_of_message {outstanding : List Fetch} {intent : ViewIntent}
    (h : t.isStep = false) (hmessage : t.message? outcomes outstanding = some intent) :
    ∃ f ∈ outstanding, intent = .fetched (outcomes.result f) := by
  cases t with
  | finish i =>
    obtain ⟨f, hf, rfl⟩ := Option.map_eq_some_iff.mp hmessage
    exact ⟨f, List.mem_of_getElem? hf, rfl⟩
  | _ => cases h

/-- Loading is a step of the user. -/
theorem countP_filter_isStep (turns : List ViewerTurn) :
    (turns.filter isStep).countP isLoad = turns.countP isLoad := by
  rw [List.countP_filter]
  refine List.countP_congr fun t _ => ?_
  cases t <;> simp only [isLoad, isStep, Bool.and_self, Bool.and_true]

theorem countP_of_event? {outstanding : List Fetch} {event : ViewerEvent}
    (h : t.event? outcomes outstanding = some event) :
    [t].countP isLoad = [event].countP ViewerEvent.isLoad := by
  cases t with
  | finish i =>
    obtain ⟨f, -, rfl⟩ := Option.map_eq_some_iff.mp h
    rfl
  | _ =>
    obtain rfl := Option.some.inj h
    rfl

end ViewerTurn

namespace Viewer

/-- A viewer that is told an intent, and the orders that it gives thereupon. -/
def heed (v : Viewer) (intent : ViewIntent) : Viewer × List Fetch :=
  match v.perform intent with
  | .ok after => after
  | .error _ => (v, [])

/-- **A viewer after an event**, and the orders that it gives thereupon. -/
def respond (v : Viewer) : ViewerEvent → Viewer × List Fetch
  | .toggleCompilation => v.heed (.compilation .toggle)
  | .toggleTest n => v.heed (.test (.toggle n))
  | .reload result ttl now => v.loaded result ttl now
  | .finish i outcome =>
    match v.outstanding[i]? with
    | some order => v.finished order outcome
    | none => (v, [])

theorem heed_fst (v : Viewer) (intent : ViewIntent) : (v.heed intent).1 = v.told intent := by
  unfold heed told
  split <;> next h => simp only [h]

theorem respond_fst (v : Viewer) (event : ViewerEvent) : (v.respond event).1 = v.react event := by
  cases event with
  | toggleCompilation => exact v.heed_fst _
  | toggleTest n => exact v.heed_fst _
  | reload result ttl now => rfl
  | finish i outcome =>
    simp only [respond, react]
    rcases v.outstanding[i]? with _ | order <;> rfl

/-- A viewer that is told an intent passes it on to its view. -/
theorem view_heed (v : Viewer) (intent : ViewIntent) :
    ((v.heed intent).1.view, (v.heed intent).2) = v.view.receive intent := by
  unfold heed View.receive
  rcases happly : v.view.apply intent with err | view
  · rw [perform_of_error happly]
  · rw [perform_of_ok happly]

/-- **Every turn is a message to the view.** -/
theorem view_respond (v : Viewer) {outcomes : Outcomes} {t : ViewerTurn} {event : ViewerEvent}
    (h : t.event? outcomes v.outstanding = some event) :
    ∃ intent, t.message? outcomes v.outstanding = some intent ∧
      ((v.respond event).1.view, (v.respond event).2) = v.view.receive intent := by
  cases t with
  | toggleCompilation =>
    obtain rfl := Option.some.inj h
    exact ⟨_, rfl, v.view_heed _⟩
  | toggleTest n =>
    obtain rfl := Option.some.inj h
    exact ⟨_, rfl, v.view_heed _⟩
  | load s =>
    obtain rfl := Option.some.inj h
    exact ⟨_, rfl, rfl⟩
  | finish i =>
    obtain ⟨f, hf, rfl⟩ := Option.map_eq_some_iff.mp h
    refine ⟨_, Option.map_eq_some_iff.mpr ⟨f, hf, rfl⟩, ?_⟩
    simp only [respond, hf]
    exact view_heed { v with outstanding := v.outstanding.erase f } _

end Viewer

/-! ### What came of the orders -/

/-- A slot that holds an outcome was filled with it. -/
theorem Slot.Holds.eq_fulfill {s : Slot} {o : Outcome} (h : s.Holds (some o)) :
    s = ({ requested := s.requested } : Slot).fulfill o := by
  obtain ⟨data, error, requested⟩ := s
  cases o <;>
  · obtain ⟨rfl, rfl⟩ := h
    rfl

/-- A slot that was asked for and holds nothing is in flight. -/
theorem Slot.Holds.state_eq_inFlight {s : Slot} (h : s.Holds none) (hreq : s.requested = true) :
    s.state = .inFlight := by
  simp only [state, h.1, h.2, if_pos hreq]

/-- **What a slot comes to in the end**: blank if it was never asked for, or filled. -/
def Slot.concluded (s : Slot) (o : Outcome) : Slot :=
  if s.requested then ({ requested := true } : Slot).fulfill o else {}

namespace View

variable {outcomes : Outcomes} {v w : View}

/-- **Answers.** A slot holds nothing, or what came of the order for it. -/
def Answered (outcomes : Outcomes) (v : View) : Prop :=
  ∀ d slot, v.slot? d = some slot → slot.Holds none ∨ slot.Holds (some (outcomes v.generation d))

theorem answered_of_blank (h : ∀ {d slot}, v.slot? d = some slot → slot = {}) :
    v.Answered outcomes := by
  intro d slot hslot
  obtain rfl := h hslot
  exact .inl Slot.holds_blank

theorem Answered.reconcile (h : v.Answered outcomes) : v.reconcile.1.Answered outcomes := by
  intro d slot hslot
  obtain ⟨before, hbefore, rfl⟩ := exists_of_slot?_reconcile hslot
  rw [v.reconcile_frame.2]
  split
  · exact (h d before hbefore).imp Slot.Holds.request Slot.Holds.request
  · exact h d before hbefore

/-- **A result is put into the slot that it is for**, and other messages leave contents alone. -/
theorem Answered.attempt (h : v.Answered outcomes) {t : ViewerTurn} {outstanding : List Fetch}
    {intent : ViewIntent} (hintent : t.message? outcomes outstanding = some intent) :
    (v.attempt intent).Answered outcomes := by
  -- what does not load changes single slots
  have hkeep (hover : intent.startsOver = false)
      (hchange : ∀ {d s}, s.Holds none ∨ s.Holds (some (outcomes v.generation d)) →
        (v.change intent d s).Holds none ∨
          (v.change intent d s).Holds (some (outcomes v.generation d))) :
      (v.attempt intent).Answered outcomes := by
    intro d slot hslot
    obtain ⟨before, hbefore, rfl⟩ := exists_of_slot?_attempt hover hslot
    rw [(v.attempt_frame (ViewIntent.ne_load hover)).2.1]
    exact hchange (h d before hbefore)
  cases t with
  | toggleCompilation =>
    obtain rfl := Option.some.inj hintent
    exact hkeep rfl id
  | toggleTest n =>
    obtain rfl := Option.some.inj hintent
    exact hkeep rfl id
  | load s =>
    obtain rfl := Option.some.inj hintent
    exact answered_of_blank eq_blank_of_slot?_load
  | finish i =>
    obtain ⟨f, -, rfl⟩ := Option.map_eq_some_iff.mp hintent
    refine hkeep rfl fun {d s} hs => ?_
    rw [change_fetched]
    by_cases hawaits : v.concerns d (outcomes.result f) = true
    · have haddress := hawaits
      simp only [concerns, Bool.and_eq_true, decide_eq_true_iff] at haddress
      rw [if_pos hawaits, ← haddress.1.1, ← haddress.1.2]
      exact .inr (s.holds_fulfill _)
    · rw [if_neg hawaits]
      exact hs

variable {loads : Nat} {outstanding : List Fetch}

/-- **Conclusion.** Every slot is concluded. -/
def Concluded (outcomes : Outcomes) (v : View) : Prop :=
  ∀ d slot, v.slot? d = some slot → slot = slot.concluded (outcomes v.generation d)

/-- **Once no order of this generation is outstanding, every slot is concluded.** -/
theorem concluded_of_settled (htracked : v.Tracked loads outstanding)
    (hanswered : v.Answered outcomes) (hsettled : ∀ f ∈ outstanding, f.generation ≠ v.generation) :
    v.Concluded outcomes := by
  intro d slot hslot
  have hstate : slot.state ≠ .inFlight := by
    intro hflight
    have hcount := htracked.awaited hslot
    rw [if_pos hflight] at hcount
    obtain ⟨f, hf, hawaits⟩ := List.countP_pos_iff.mp (hcount ▸ Nat.one_pos)
    simp only [awaits, Bool.and_eq_true, decide_eq_true_iff] at hawaits
    exact hsettled f hf hawaits.1.2
  rcases hreq : slot.requested with _ | _
  · obtain rfl := htracked.blank hslot hreq
    rfl
  · rcases hanswered d slot hslot with hnone | hsome
    · exact absurd (hnone.state_eq_inFlight hreq) hstate
    · rw [Slot.concluded, if_pos hreq, ← hreq]
      exact hsome.eq_fulfill

/-- Concluded views with the same outline are the same. -/
theorem Concluded.eq_of_outline (hv : v.Concluded outcomes) (hw : w.Concluded outcomes)
    (houtline : v.outline = w.outline) : v = w := by
  refine View.eq_of_outline houtline fun {d s t} hs ht => ?_
  have hrequested : s.requested = t.requested := by
    have hslots : s.outline = t.outline := by
      have heq := congrArg (·.slot? d) houtline
      simpa only [slot?_outline, hs, ht, Option.map_some, Option.some.injEq] using heq
    exact (congrArg Slot.requested hslots :)
  have hgeneration : v.generation = w.generation := (congrArg View.generation houtline :)
  rw [hv d s hs, hw d t ht, Slot.concluded, Slot.concluded, hrequested, hgeneration]

end View

/-! ### Viewings -/

/-- **A viewing**: a viewer, and all orders that it gave. -/
structure Viewing where
  /-- the viewer -/
  viewer : Viewer
  /-- the orders, in the order in which they were given -/
  issued : List Fetch := []

namespace Viewing

variable {outcomes : Outcomes} {w : Viewing}

/-- A viewer is opened. -/
def start (id : UInt64) : Viewing := { viewer := { submissionId := id } }

/-- **A viewing after a turn.** -/
def turn (outcomes : Outcomes) (w : Viewing) (t : ViewerTurn) : Viewing :=
  match t.event? outcomes w.viewer.outstanding with
  | some event =>
    { viewer := (w.viewer.respond event).1, issued := w.issued ++ (w.viewer.respond event).2 }
  | none => w

/-- **A run** of turns. -/
def play (outcomes : Outcomes) (w : Viewing) (turns : List ViewerTurn) : Viewing :=
  turns.foldl (turn outcomes) w

@[simp] theorem play_concat (turns : List ViewerTurn) (t : ViewerTurn) :
    w.play outcomes (turns ++ [t]) = (w.play outcomes turns).turn outcomes t := by
  simp only [play, List.foldl_append, List.foldl_cons, List.foldl_nil]

/-- **What a turn can do**: nothing, as no order is outstanding at its position, or what its message
does to the view. -/
theorem turn_cases (outcomes : Outcomes) (w : Viewing) (t : ViewerTurn) :
    (t.isStep = false ∧ w.turn outcomes t = w) ∨
      ∃ intent, t.message? outcomes w.viewer.outstanding = some intent ∧
        (w.turn outcomes t).viewer.view = (w.viewer.view.receive intent).1 ∧
        (w.turn outcomes t).issued = w.issued ++ (w.viewer.view.receive intent).2 := by
  rcases hevent : t.event? outcomes w.viewer.outstanding with _ | event
  · refine .inl ⟨?_, by simp only [turn, hevent]⟩
    cases t with
    | finish i => rfl
    | _ => cases hevent
  · obtain ⟨intent, hintent, hview⟩ := w.viewer.view_respond hevent
    refine .inr ⟨intent, hintent, ?_⟩
    simp only [turn, hevent, ← hview, true_and]

/-- **A step of the user** is one and the same message in every viewing. -/
theorem exists_turn_of_isStep (outcomes : Outcomes) {t : ViewerTurn} (h : t.isStep = true) :
    ∃ intent, intent.isResult = false ∧ ∀ w : Viewing,
      (w.turn outcomes t).viewer.view = (w.viewer.view.receive intent).1 ∧
        (w.turn outcomes t).issued = w.issued ++ (w.viewer.view.receive intent).2 := by
  obtain ⟨intent, hresult, hmessage⟩ := ViewerTurn.exists_message_of_isStep outcomes h
  refine ⟨intent, hresult, fun w => ?_⟩
  rcases turn_cases outcomes w t with ⟨hnot, -⟩ | ⟨intent', hintent', heq⟩
  · rw [h] at hnot
    cases hnot
  · obtain rfl := Option.some.inj ((hmessage _).symm.trans hintent')
    exact heq

/-- **Any other turn** does nothing, or brings the result of an order that was outstanding. -/
theorem turn_of_finish (outcomes : Outcomes) (w : Viewing) {t : ViewerTurn} (h : t.isStep = false) :
    w.turn outcomes t = w ∨ ∃ f ∈ w.viewer.outstanding,
      (w.turn outcomes t).viewer.view =
          (w.viewer.view.receive (.fetched (outcomes.result f))).1 ∧
        (w.turn outcomes t).issued =
          w.issued ++ (w.viewer.view.receive (.fetched (outcomes.result f))).2 := by
  rcases turn_cases outcomes w t with ⟨-, heq⟩ | ⟨intent, hintent, heq⟩
  · exact .inl heq
  · obtain ⟨f, hf, rfl⟩ := ViewerTurn.exists_order_of_message h hintent
    exact .inr ⟨f, hf, heq⟩

/-! ### Orders and outlines -/

/-- **In every run the view is at rest.** -/
theorem due_play (outcomes : Outcomes) (id : UInt64) (turns : List ViewerTurn) :
    ((start id).play outcomes turns).viewer.view.due = [] := by
  induction turns using List.reverseRecOn with
  | nil => rfl
  | append_singleton turns t ih =>
    rw [play_concat]
    rcases turn_cases outcomes ((start id).play outcomes turns) t with
      ⟨-, heq⟩ | ⟨intent, -, hview, -⟩
    · rw [heq, ih]
    · rw [hview, View.due_receive ih]

/-- A step of the user does the same to viewings that differ in the contents of slots only. -/
theorem outline_turn {w' : Viewing} {t : ViewerTurn} (h : t.isStep = true)
    (houtline : w.viewer.view.outline = w'.viewer.view.outline) (hissued : w.issued = w'.issued) :
    (w.turn outcomes t).viewer.view.outline = (w'.turn outcomes t).viewer.view.outline ∧
      (w.turn outcomes t).issued = (w'.turn outcomes t).issued := by
  obtain ⟨intent, hresult, hturn⟩ := exists_turn_of_isStep outcomes h
  have hreceive := w.viewer.view.outline_receive hresult
  rw [houtline, w'.viewer.view.outline_receive hresult, Prod.mk.injEq] at hreceive
  rw [(hturn w).1, (hturn w').1, (hturn w).2, (hturn w').2, hissued, hreceive.1, hreceive.2]
  exact ⟨rfl, rfl⟩

/-- **Results do not matter** for what is ordered and for the outline of the view: both are as if no
order had come back. -/
theorem outline_play (outcomes : Outcomes) (id : UInt64) (turns : List ViewerTurn) :
    ((start id).play outcomes turns).viewer.view.outline =
        ((start id).play outcomes (turns.filter ViewerTurn.isStep)).viewer.view.outline ∧
      ((start id).play outcomes turns).issued =
        ((start id).play outcomes (turns.filter ViewerTurn.isStep)).issued := by
  induction turns using List.reverseRecOn with
  | nil => exact ⟨rfl, rfl⟩
  | append_singleton turns t ih =>
    rw [List.filter_append, play_concat]
    rcases hstep : t.isStep with _ | _
    · rw [List.filter_cons_of_neg (Bool.eq_false_iff.mp hstep), List.filter_nil, List.append_nil]
      rcases turn_of_finish outcomes ((start id).play outcomes turns) hstep with
        heq | ⟨f, -, hview, hnew⟩
      · rw [heq]
        exact ih
      · obtain ⟨houtline, hnone⟩ :=
          View.outline_receive_fetched (due_play outcomes id turns) (outcomes.result f)
        rw [hview, hnew, houtline, hnone, List.append_nil]
        exact ih
    · rw [List.filter_cons_of_pos hstep, List.filter_nil, play_concat]
      exact outline_turn hstep ih.1 ih.2

/-! ### Contents -/

theorem tracked_turn {loads : Nat} {t : ViewerTurn}
    (h : w.viewer.view.Tracked loads w.viewer.outstanding)
    (hloads : loads + [t].countP ViewerTurn.isLoad < UInt64.size) :
    (w.turn outcomes t).viewer.view.Tracked (loads + [t].countP ViewerTurn.isLoad)
      (w.turn outcomes t).viewer.outstanding := by
  rcases hevent : t.event? outcomes w.viewer.outstanding with _ | event
  · have hcount : [t].countP ViewerTurn.isLoad = 0 := by
      cases t with
      | finish i => rfl
      | _ => cases hevent
    rw [hcount, Nat.add_zero]
    simpa only [turn, hevent] using h
  · rw [ViewerTurn.countP_of_event? hevent] at hloads ⊢
    simp only [turn, hevent, Viewer.respond_fst]
    exact Viewer.tracked_react h event hloads

/-- **In every run the outstanding orders are those that the slots wait for.** -/
theorem tracked_play (outcomes : Outcomes) (id : UInt64) (turns : List ViewerTurn)
    (hloads : turns.countP ViewerTurn.isLoad < UInt64.size) :
    ((start id).play outcomes turns).viewer.view.Tracked (turns.countP ViewerTurn.isLoad)
      ((start id).play outcomes turns).viewer.outstanding := by
  induction turns using List.reverseRecOn with
  | nil => exact View.tracked_blank
  | append_singleton turns t ih =>
    rw [List.countP_append] at hloads ⊢
    rw [play_concat]
    exact tracked_turn (ih (by omega)) hloads

/-- **In every run a slot holds nothing or the outcome of its order.** -/
theorem answered_play (outcomes : Outcomes) (id : UInt64) (turns : List ViewerTurn) :
    ((start id).play outcomes turns).viewer.view.Answered outcomes := by
  induction turns using List.reverseRecOn with
  | nil => exact View.answered_of_blank View.eq_blank_of_slot?_blank
  | append_singleton turns t ih =>
    rw [play_concat]
    rcases turn_cases outcomes ((start id).play outcomes turns) t with
      ⟨-, heq⟩ | ⟨intent, hintent, hview, -⟩
    · rw [heq]
      exact ih
    · rw [hview, View.receive_eq (due_play outcomes id turns)]
      exact (ih.attempt hintent).reconcile

/-! ### Any two runs -/

/-- **Settled.** The orders of the last load have come back; older ones may still be on the way. -/
def Settled (w : Viewing) : Prop :=
  ∀ f ∈ w.viewer.outstanding, f.generation ≠ w.viewer.view.generation

/-- **The order in which downloads end does not matter.** Two runs with the same steps of the user,
in which the orders come back with the same outcomes, each at most once and at any time, give the
same orders in the same order; and once those of the last load have come back, they end in the same
view. -/
theorem view_eq_of_same_steps (outcomes : Outcomes) (id : UInt64) {first second : List ViewerTurn}
    (hsteps : first.filter ViewerTurn.isStep = second.filter ViewerTurn.isStep)
    (hloads : first.countP ViewerTurn.isLoad < UInt64.size)
    (hfirst : ((start id).play outcomes first).Settled)
    (hsecond : ((start id).play outcomes second).Settled) :
    ((start id).play outcomes first).issued = ((start id).play outcomes second).issued ∧
      ((start id).play outcomes first).viewer.view =
        ((start id).play outcomes second).viewer.view := by
  obtain ⟨houtline₁, hissued₁⟩ := outline_play outcomes id first
  obtain ⟨houtline₂, hissued₂⟩ := outline_play outcomes id second
  rw [hsteps, ← houtline₂] at houtline₁
  rw [hsteps, ← hissued₂] at hissued₁
  have hloads' : second.countP ViewerTurn.isLoad < UInt64.size := by
    rwa [← ViewerTurn.countP_filter_isStep, ← hsteps, ViewerTurn.countP_filter_isStep]
  have hconcluded₁ : ((start id).play outcomes first).viewer.view.Concluded outcomes :=
    View.concluded_of_settled (tracked_play outcomes id first hloads)
      (answered_play outcomes id first) hfirst
  have hconcluded₂ : ((start id).play outcomes second).viewer.view.Concluded outcomes :=
    View.concluded_of_settled (tracked_play outcomes id second hloads')
      (answered_play outcomes id second) hsecond
  exact ⟨hissued₁, hconcluded₁.eq_of_outline hconcluded₂ houtline₁⟩

/-- The outcomes of a judge that keeps the input of the first test only. -/
def keepsInput : Outcomes
  | _, .test 1 .input => .ok (.ofText "1 2")
  | _, _ => .error "gone"

/-- A run in which the input of the test comes before the submission is loaded again, and the
artifacts that are ordered afterwards come in the order in which they were ordered. -/
def promptly : List ViewerTurn :=
  [.load (.ofOneTest 7), .toggleTest 1, .finish 0, .load (.ofOneTest 7), .toggleTest 1,
    .finish 4, .finish 4, .finish 4, .finish 4, .finish 4]

/-- A run in which the input of the test comes after the submission was loaded again, as do all
artifacts that were ordered before, and the others come last of all and from behind. -/
def belatedly : List ViewerTurn :=
  [.load (.ofOneTest 7), .toggleTest 1, .load (.ofOneTest 7), .toggleTest 1, .finish 0, .finish 0,
    .finish 0, .finish 0, .finish 0, .finish 4, .finish 3, .finish 2, .finish 1, .finish 0]

theorem view_promptly_eq_belatedly :
    promptly.filter ViewerTurn.isStep = belatedly.filter ViewerTurn.isStep ∧
      ((start 7).play keepsInput promptly).issued.length = 10 ∧
      ((start 7).play keepsInput promptly).viewer.view =
        ((start 7).play keepsInput belatedly).viewer.view := by
  have hsteps : promptly.filter ViewerTurn.isStep = belatedly.filter ViewerTurn.isStep := rfl
  have hloads : promptly.countP ViewerTurn.isLoad < UInt64.size := by decide
  -- at the end of the first run the other four orders of the first load are on the way
  have hpromptly : ((start 7).play keepsInput promptly).Settled := by
    have hold : ∀ f ∈ ((start 7).play keepsInput promptly).viewer.outstanding,
        f.generation ≠ 2 := by decide
    exact hold
  have hbelatedly : ((start 7).play keepsInput belatedly).Settled := by
    have hnone : ((start 7).play keepsInput belatedly).viewer.outstanding = [] := rfl
    intro f hf
    rw [hnone] at hf
    cases hf
  exact ⟨hsteps, rfl, (view_eq_of_same_steps keepsInput 7 hsteps hloads hpromptly hbelatedly).2⟩

end Viewing

end JudgeDesk
