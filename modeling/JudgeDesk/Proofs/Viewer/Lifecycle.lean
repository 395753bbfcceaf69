import Mathlib.Data.List.Destutter
import Mathlib.Data.List.Infix
import JudgeDesk.Proofs.Viewer.Rest

/-!
# The life of a slot

From one load to the next a slot goes forward only: its artifact is asked for, it comes or it does
not, and what came of it stays. Putting a result into a slot does not look at what is there, and
asking for an artifact does not look at its mark. It is the viewer as a whole that keeps a slot from
going back: what is due was never asked for, and an order that comes back finds its slot in flight,
or does not find it at all.

* `Slot.Advance` — what can happen to a slot, between loads;
* `SlotState.next`, `SlotState.exists_life` — the states that may follow a state, and the lives that
  a chain of them makes;
* `View.Advances`, `Viewer.react_cases` — an event loads a submission, or every slot advances;
* `Viewer.seen`, `View.Recorded` — all that was seen of a slot in a generation;
* `Viewer.lifecycle_run` — the life of every slot, in every run.
-/

namespace JudgeDesk

/-! ### States -/

namespace SlotState

/-- **What may follow a state**, apart from the state itself. -/
def next : SlotState → List SlotState
  | .notFetched => [.inFlight]
  | .inFlight => [.loaded, .failed]
  | .loaded => []
  | .failed => []

/-- **Lives**: all that a slot may go through from a state on. -/
def lives : SlotState → List (List SlotState)
  | .notFetched => [[.notFetched, .inFlight, .loaded], [.notFetched, .inFlight, .failed]]
  | .inFlight => [[.inFlight, .loaded], [.inFlight, .failed]]
  | .loaded => [[.loaded]]
  | .failed => [[.failed]]

variable {s s' : SlotState}

theorem cons_mem_lives (h : s' ∈ s.next) : ∀ life ∈ s'.lives, s :: life ∈ s.lives := by
  revert h
  cases s <;> cases s' <;> decide

theorem ne_of_mem_next (h : s' ∈ s.next) : s ≠ s' := by
  rintro rfl
  cases s <;> simp [next] at h

/-- **States that follow one another make the beginning of a life**, if repetitions are left
out. -/
theorem exists_life {states : List SlotState}
    (h : (s :: states).IsChain fun before after => after = before ∨ after ∈ before.next) :
    ∃ life ∈ s.lives, (s :: states).destutter (· ≠ ·) <+: life := by
  induction states generalizing s with
  | nil =>
    have hfirst : ∃ life ∈ s.lives, [s] <+: life := by cases s <;> decide
    exact hfirst
  | cons s' rest ih =>
    obtain ⟨hstep, hrest⟩ := List.isChain_cons_cons.mp h
    obtain ⟨life, hlife, hprefix⟩ := ih hrest
    rw [List.destutter_cons_cons]
    -- a repetition is left out, and any other state goes in front of the life of the next
    rcases hstep with rfl | hnext
    · rw [if_neg (not_not_intro rfl)]
      exact ⟨life, hlife, hprefix⟩
    · rw [if_pos (ne_of_mem_next hnext)]
      exact ⟨s :: life, cons_mem_lives hnext life hlife, List.cons_prefix_cons.mpr ⟨rfl, hprefix⟩⟩

end SlotState

/-! ### Slots -/

namespace Slot

/-- **An advance**: what can happen to a slot between loads. -/
inductive Advance : Slot → Slot → Prop
  /-- nothing happens to it -/
  | stay (s : Slot) : Advance s s
  /-- its artifact is asked for, for the first time -/
  | request {s : Slot} (h : s.state = .notFetched) : Advance s s.request
  /-- something comes of the request -/
  | fulfill {s : Slot} (h : s.state = .inFlight) (o : Outcome) : Advance s (s.fulfill o)

variable {s s' : Slot}

theorem state_request (h : s.state = .notFetched) : s.request.state = .inFlight := by
  unfold state at h
  split at h
  · cases h
  · cases h
  · next herror hdata => simp only [state, request, herror, hdata, if_true]

theorem state_fulfill (s : Slot) (o : Outcome) :
    (s.fulfill o).state = .loaded ∨ (s.fulfill o).state = .failed := by
  cases o with
  | ok data => exact .inl rfl
  | error message => exact .inr rfl

/-- **A slot goes forward**, if it does not stay where it is. -/
theorem Advance.state (h : Advance s s') : s'.state = s.state ∨ s'.state ∈ s.state.next := by
  cases h with
  | stay => exact .inl rfl
  | request h =>
    rw [h, state_request h]
    exact .inr List.mem_cons_self
  | fulfill h o =>
    rw [h]
    rcases s.state_fulfill o with ho | ho <;> rw [ho]
    · exact .inr List.mem_cons_self
    · exact .inr (List.mem_cons_of_mem _ List.mem_cons_self)

/-- **What came of a request stays.** -/
theorem Advance.eq_of_next (h : Advance s s') (hs : s.state.next = []) : s' = s := by
  cases h with
  | stay => rfl
  | request h =>
    rw [h] at hs
    cases hs
  | fulfill h o =>
    rw [h] at hs
    cases hs

/-- A slot is not blank any more once something happened to it. -/
theorem Advance.eq_blank (h : Advance s {}) : s = {} := by
  generalize hblank : ({} : Slot) = blank at h
  cases h with
  | stay => rfl
  | request h => cases congrArg Slot.requested hblank
  | fulfill h o =>
    cases o with
    | ok data => cases congrArg Slot.data hblank
    | error message => cases congrArg Slot.error hblank

/-- A slot never comes to have both the artifact and a reason why it could not be had. -/
theorem Advance.exclusive (h : Advance s s') (hs : s.data = none ∨ s.error = none) :
    s'.data = none ∨ s'.error = none := by
  cases h with
  | stay => exact hs
  | request => exact hs
  | fulfill h o =>
    cases o with
    | ok data => exact .inr rfl
    | error message => exact .inl rfl

/-- **A life** of a slot: it is blank at first, and then it advances. -/
structure IsLife (slots : List Slot) : Prop where
  /-- it is blank at first -/
  birth : ∀ slot ∈ slots.head?, slot = {}
  /-- then it advances -/
  chain : slots.IsChain Advance

variable {slots : List Slot}

theorem isLife_nil : IsLife [] := ⟨nofun, List.isChain_nil⟩

theorem isLife_blank : IsLife [{}] :=
  ⟨fun _ hslot => (Option.some.inj hslot).symm, List.isChain_singleton _⟩

theorem IsLife.concat (h : IsLife slots) (hlast : slots.getLast? = some s)
    (hadvance : s.Advance s') : IsLife (slots ++ [s']) := by
  refine ⟨fun slot hslot => ?_, List.isChain_append.mpr ⟨h.chain, List.isChain_singleton s', ?_⟩⟩
  · rcases slots with _ | ⟨first, rest⟩
    · cases hlast
    · exact h.birth slot hslot
  · rintro before hbefore after hafter
    rw [hlast] at hbefore
    obtain rfl := Option.some.inj hbefore
    obtain rfl := Option.some.inj hafter
    exact hadvance

/-- **A life goes on** with what comes of the slot, if that is blank where the life begins, and
otherwise an advance. -/
theorem IsLife.append {slot? : Option Slot} (h : IsLife slots)
    (hnext : slots = [] ∧ (∀ slot ∈ slot?, slot = {}) ∨ Option.Rel Advance slots.getLast? slot?) :
    IsLife (slots ++ slot?.toList) ∧ (slots ++ slot?.toList).getLast? = slot? := by
  rcases hnext with ⟨rfl, hblank⟩ | hrel
  · rcases slot? with _ | slot
    · exact ⟨isLife_nil, rfl⟩
    · obtain rfl := hblank slot rfl
      exact ⟨isLife_blank, rfl⟩
  · -- no slot comes or goes within a life, so there is a last one exactly if there is a next one
    generalize hlast : slots.getLast? = last at hrel
    cases hrel with
    | none =>
      rw [Option.toList_none, List.append_nil]
      exact ⟨h, hlast⟩
    | some hadvance => exact ⟨h.concat hlast hadvance, List.getLast?_concat⟩

/-- **A life goes through the states in one order**, as far as it goes. -/
theorem IsLife.states (h : IsLife slots) :
    ∃ final ∈ [SlotState.loaded, .failed],
      (slots.map Slot.state).destutter (· ≠ ·) <+: [.notFetched, .inFlight, final] := by
  rcases slots with _ | ⟨first, rest⟩
  · exact ⟨.loaded, List.mem_cons_self, List.nil_prefix⟩
  · obtain rfl := h.birth first rfl
    have hchain : (({} :: rest).map Slot.state).IsChain fun before after =>
        after = before ∨ after ∈ before.next :=
      (List.isChain_map Slot.state).mpr (h.chain.imp fun _ _ hadvance => hadvance.state)
    obtain ⟨life, hlife, hprefix⟩ := SlotState.exists_life hchain
    rcases List.mem_pair.mp hlife with rfl | rfl
    · exact ⟨.loaded, List.mem_cons_self, hprefix⟩
    · exact ⟨.failed, List.mem_cons_of_mem _ List.mem_cons_self, hprefix⟩

/-- **In a life what came of a request stays.** -/
theorem IsLife.pairwise (h : IsLife slots) : slots.Pairwise fun before after =>
    before.state = .loaded ∨ before.state = .failed → after = before := by
  have hstays := h.chain.imp fun _ _ hadvance => hadvance.eq_of_next
  have htrans : IsTrans Slot fun before after => before.state.next = [] → after = before :=
    ⟨fun a b c hab hbc hfinal => by
      obtain rfl := hab hfinal
      exact hbc hfinal⟩
  refine hstays.pairwise.imp fun hstay hfinal => hstay ?_
  rcases hfinal with hfinal | hfinal <;> rw [hfinal] <;> rfl

/-- **In a life there is never both** the artifact and a reason why it could not be had. -/
theorem IsLife.exclusive (h : IsLife slots) (hs : s ∈ slots) : s.data = none ∨ s.error = none := by
  refine List.IsChain.induction (fun s => s.data = none ∨ s.error = none) slots h.chain
    (fun _ _ hadvance => hadvance.exclusive) (fun hne => ?_) s hs
  rw [h.birth _ (List.head_mem_head? hne)]
  exact .inl rfl

end Slot

/-! ### Views -/

namespace View

/-- **Every slot advances**, and none comes or goes, in the same generation. -/
structure Advances (v v' : View) : Prop where
  /-- no submission is loaded -/
  generation : v'.generation = v.generation
  /-- the slots advance -/
  slots : ∀ d, Option.Rel Slot.Advance (v.slot? d) (v'.slot? d)

variable {loads : Nat} {v v' : View} {outstanding : List Fetch}

theorem Advances.refl (v : View) : v.Advances v := by
  refine ⟨rfl, fun d => ?_⟩
  rcases v.slot? d with _ | slot
  · exact .none
  · exact .some (.stay slot)

/-- **A message lets every slot advance**, if the intent alone does. The pass that follows asks for
what is blank, so it does not touch a slot that the intent has changed. -/
theorem Tracked.advances_receive {intent : ViewIntent} (hover : intent.startsOver = false)
    (hchange : ∀ {d slot}, v.slot? d = some slot → slot.Advance (v.change intent d slot))
    (hafter : (v.attempt intent).Tracked loads outstanding) :
    v.Advances (v.receive intent).1 := by
  have hreconcile : v.Advances (v.attempt intent).reconcile.1 := by
    have hgeneration := (v.attempt_frame (ViewIntent.ne_load hover)).2.1
    refine ⟨(v.attempt intent).reconcile_frame.2.trans hgeneration, fun d => ?_⟩
    rw [slot?_reconcile, v.slot?_attempt hover]
    rcases hslot : v.slot? d with _ | slot
    · exact .none
    · refine .some ?_
      dsimp only
      split
      · next hdue =>
        -- what is due is blank after the intent, so it was blank before, and the pass asks for it
        have hasked : (v.attempt intent).slot? d = some (v.change intent d slot) := by
          rw [v.slot?_attempt hover, hslot, Option.map_some]
        have hblank : v.change intent d slot = {} :=
          hafter.blank hasked ((hafter.asked hasked).trans (isAsked_of_mem_due hdue))
        have hadvance := hchange hslot
        rw [hblank] at hadvance ⊢
        rw [hadvance.eq_blank]
        exact .request rfl
      · exact hchange hslot
  unfold receive
  rcases happly : v.apply intent with err | view
  · exact Advances.refl v
  · rwa [attempt_of_ok happly] at hreconcile

/-- After a load nothing is due, since nothing is shown. -/
theorem due_load (v : View) (s : Submission) : (v.load s).due = [] := by
  have hpair : (v.load s).compilation.isDue s = false := by
    simp only [load, Compilation.isDue, Bool.and_false, Bool.false_and]
  exact (due_eq_nil_iff rfl).mpr ⟨hpair, Tests.due_fresh s.testsCount⟩

end View

/-! ### Viewers -/

namespace Viewer

variable {loads : Nat} {v : Viewer}

/-- **What an event does to a view**: it loads a submission, or every slot advances. -/
theorem react_cases (h : v.view.Tracked loads v.outstanding) (event : ViewerEvent) :
    (event.isLoad = true ∧ ∃ s, (v.react event).view = v.view.load s) ∨
      (event.isLoad = false ∧ v.view.Advances (v.react event).view) := by
  have htoggle {intent : ViewIntent} (hover : intent.startsOver = false)
      (hpair : intent.asksForPair = false) (hchange : ∀ d s, v.view.change intent d s = s) :
      v.view.Advances (v.told intent).view := by
    rw [view_told]
    refine View.Tracked.advances_receive hover (fun {d slot} _ => ?_)
      (h.toggle hover hpair hchange)
    rw [hchange]
    exact .stay slot
  cases event with
  | toggleCompilation => exact .inr ⟨rfl, htoggle rfl rfl fun d s => rfl⟩
  | toggleTest n => exact .inr ⟨rfl, htoggle rfl rfl fun d s => rfl⟩
  | reload result ttl now =>
    cases result with
    | error err => exact .inr ⟨rfl, View.Advances.refl v.view⟩
    | ok s =>
      refine .inl ⟨rfl, s, ?_⟩
      change (v.view.load s).reconcile.1 = v.view.load s
      rw [View.reconcile_of_due (v.view.due_load s)]
  | finish i o =>
    refine .inr ⟨rfl, ?_⟩
    rcases hi : v.outstanding[i]? with _ | order
    · simp only [react, hi]
      exact View.Advances.refl v.view
    · have horder := List.mem_of_getElem? hi
      simp only [react, hi, finished_fst]
      rw [view_told]
      refine View.Tracked.advances_receive rfl (fun {d slot} hslot => ?_) (h.finish horder o)
      rw [View.change_complete]
      split
      · next hawaits => exact .fulfill (h.state_eq_inFlight horder hslot hawaits) o
      · exact .stay slot

end Viewer

/-! ### What was seen -/

namespace View

/-- The slot at an address, if the view is of a generation. -/
def slotIn? (v : View) (g : UInt64) (d : Address) : Option Slot :=
  if v.generation = g then v.slot? d else none

/-- **Records.** What was seen of a slot in a generation is the life of that slot, up to what the
view shows of it now. -/
structure Recorded (v : View) (record : UInt64 → Address → List Slot) : Prop where
  /-- what was seen of a slot is a life -/
  life : ∀ g d, Slot.IsLife (record g d)
  /-- what was seen of it last in this generation is there now -/
  last : ∀ d, (record v.generation d).getLast? = v.slot? d
  /-- nothing was seen of later generations -/
  later : ∀ g d, v.generation.toNat < g.toNat → record g d = []

variable {v v' : View} {record : UInt64 → Address → List Slot}

/-- **A record goes on** with a view of the same or a later generation, if its slots are blank
where nothing was seen of them in this generation, and otherwise advance. -/
theorem recorded_append (record : UInt64 → Address → List Slot)
    (hlife : ∀ g d, Slot.IsLife (record g d))
    (hlater : ∀ g d, v.generation.toNat < g.toNat → record g d = [])
    (hnext : ∀ d, record v.generation d = [] ∧ (∀ slot ∈ v.slot? d, slot = {}) ∨
      Option.Rel Slot.Advance (record v.generation d).getLast? (v.slot? d)) :
    v.Recorded fun g d => record g d ++ (v.slotIn? g d).toList := by
  have hother {g : UInt64} (hg : v.generation ≠ g) (d : Address) :
      record g d ++ (v.slotIn? g d).toList = record g d := by
    rw [slotIn?, if_neg hg]
    exact List.append_nil _
  have hthis (d : Address) := (hlife v.generation d).append (hnext d)
  refine ⟨fun g d => ?_, fun d => ?_, fun g d hg => ?_⟩
  · by_cases hg : v.generation = g
    · subst hg
      rw [slotIn?, if_pos rfl]
      exact (hthis d).1
    · rw [hother hg]
      exact hlife g d
  · rw [slotIn?, if_pos rfl]
    exact (hthis d).2
  · have hne : v.generation ≠ g := by
      rintro rfl
      exact Nat.lt_irrefl _ hg
    rw [hother hne]
    exact hlater g d hg

theorem recorded_blank : Recorded {} fun g d => (slotIn? {} g d).toList :=
  recorded_append (fun _ _ => []) (fun _ _ => Slot.isLife_nil) (fun _ _ _ => rfl)
    fun _ => .inl ⟨rfl, fun _ hslot => eq_blank_of_slot?_blank hslot⟩

theorem Recorded.advances (h : v.Recorded record) (hv : v.Advances v') :
    v'.Recorded fun g d => record g d ++ (v'.slotIn? g d).toList := by
  refine recorded_append record h.life (fun g d hg => ?_) fun d => .inr ?_
  · rw [hv.generation] at hg
    exact h.later g d hg
  · rw [hv.generation, h.last d]
    exact hv.slots d

/-- **A load begins a new record for every slot.** -/
theorem Recorded.load (h : v.Recorded record) {s : Submission}
    (hgeneration : v.generation.toNat < (v.load s).generation.toNat) :
    (v.load s).Recorded fun g d => record g d ++ ((v.load s).slotIn? g d).toList := by
  refine recorded_append record h.life (fun g d hg => ?_) fun d => .inl ⟨?_, fun slot hslot => ?_⟩
  · exact h.later g d (hgeneration.trans hg)
  · exact h.later _ d hgeneration
  · exact eq_blank_of_slot?_load hslot

end View

namespace Viewer

/-- **All that was seen of a slot in a generation**, from the beginning of a run to its end: what is
there before the first event and after each of them. -/
def seen (id : UInt64) (events : List ViewerEvent) (g : UInt64) (d : Address) : List Slot :=
  events.inits.filterMap fun front => (run { submissionId := id } front).view.slotIn? g d

theorem seen_nil (id : UInt64) (g : UInt64) (d : Address) :
    seen id [] g d = (View.slotIn? {} g d).toList := by
  rw [seen, List.filterMap_eq_flatMap_toList]
  exact List.flatMap_singleton _ _

theorem seen_concat (id : UInt64) (events : List ViewerEvent) (event : ViewerEvent) (g : UInt64)
    (d : Address) : seen id (events ++ [event]) g d = seen id events g d ++
      (((run { submissionId := id } events).react event).view.slotIn? g d).toList := by
  have hinits : (events ++ [event]).inits = events.inits ++ [events ++ [event]] := by
    rw [List.inits_append]
    rfl
  rw [seen, seen, List.filterMap_eq_flatMap_toList, List.filterMap_eq_flatMap_toList, hinits,
    List.flatMap_append, List.flatMap_singleton, run_concat]

theorem recorded_run (id : UInt64) (events : List ViewerEvent)
    (hloads : events.countP ViewerEvent.isLoad < UInt64.size) :
    (run { submissionId := id } events).view.Recorded (seen id events) := by
  induction events using List.reverseRecOn with
  | nil =>
    rw [funext₂ (seen_nil id)]
    exact View.recorded_blank
  | append_singleton events event ih =>
    rw [List.countP_append] at hloads
    have htracked := tracked_run id events (by omega)
    have hrecorded := ih (by omega)
    rw [funext₂ (seen_concat id events event), run_concat]
    rcases react_cases htracked event with ⟨hload, s, heq⟩ | ⟨-, hadvances⟩
    -- a load begins a generation that nothing was seen of, as long as the count does not overflow
    · rw [List.countP_singleton, if_pos hload] at hloads
      have hgeneration := htracked.stamped.toNat_generation_load hloads s
      rw [heq]
      refine hrecorded.load ?_
      rw [hgeneration, htracked.stamped.generation]
      exact Nat.lt_succ_self _
    · exact hrecorded.advances hadvances

/-- **The life of a slot.** In every run, what is seen of a slot in a generation is first a slot
that was never asked for, then one in flight, and then one with a file or with a failure, as far as
it goes; and once there is a file or a failure it stays. Nothing is there that was not asked for, no
slot has both a file and a failure, and the artifacts of the compilation are marked together. -/
theorem lifecycle_run (id : UInt64) (events : List ViewerEvent)
    (hloads : events.countP ViewerEvent.isLoad < UInt64.size) :
    (∀ g d, ∃ final ∈ [SlotState.loaded, .failed],
      ((seen id events g d).map Slot.state).destutter (· ≠ ·) <+:
        [.notFetched, .inFlight, final]) ∧
    (∀ g d, (seen id events g d).Pairwise fun before after =>
      before.state = .loaded ∨ before.state = .failed → after = before) ∧
    (∀ d slot, (run { submissionId := id } events).view.slot? d = some slot →
      (slot.data ≠ none ∨ slot.error ≠ none → slot.requested = true) ∧
        (slot.data = none ∨ slot.error = none)) ∧
    ∀ k, ((run { submissionId := id } events).view.compilation.set.slot k).requested =
      (run { submissionId := id } events).view.compilation.requested := by
  have hrecorded := recorded_run id events hloads
  have htracked := tracked_run id events hloads
  refine ⟨fun g d => (hrecorded.life g d).states, fun g d => (hrecorded.life g d).pairwise,
    fun d slot hslot => ⟨fun hcontent => ?_, ?_⟩, fun k => htracked.asked (d := .compilation k) rfl⟩
  · by_contra hrequested
    obtain rfl := htracked.blank hslot (Bool.eq_false_iff.mpr hrequested)
    exact hcontent.elim (absurd rfl) (absurd rfl)
  · exact (hrecorded.life _ d).exclusive (List.mem_of_getLast? ((hrecorded.last d).trans hslot))

theorem lifecycle_reloadedMeanwhile :
    (seen 7 reloadedMeanwhile 1 (.test 1 .output)).map Slot.state =
        [.notFetched, .inFlight, .inFlight, .failed, .failed] ∧
      ∃ final ∈ [SlotState.loaded, .failed],
        ((seen 7 reloadedMeanwhile 1 (.test 1 .output)).map Slot.state).destutter (· ≠ ·) <+:
          [.notFetched, .inFlight, final] :=
  ⟨rfl, (lifecycle_run 7 reloadedMeanwhile (by decide)).1 1 (.test 1 .output)⟩

end Viewer

end JudgeDesk
