import Mathlib.Data.List.Induction
import Mathlib.Data.Set.Card
import JudgeDesk.Proofs.Sessions.Lookup

/-!
# How long sessions live

A session is opened, used, closed, or swept away after it was idle for too long. Whether it is open
can be told from the history of all that was done: it was opened and not closed since, and each
sweep since then came soon enough after the use of it that was recorded last.

* `SessionStep`, `Sessions.after` — what is done with sessions, and what is open after a history;
* `SessionStep.affect`, `Sessions.held?_step` — what a step does to the session of one id;
* `Sessions.lastUse?`, `Sessions.lastUse?_of_held?` — the use that was recorded last;
* `Sessions.Lives`, `Sessions.livesOn_concat`, `Sessions.lives_concat` — what the history says of a
  session, step by step;
* `Sessions.lifetime_after` — it is open exactly if the history says so.

A lookup that fails is no use, and a lookup may set the time of the last use back: what counts is
the time that was recorded last, not the latest one.
-/

namespace JudgeDesk

variable {α : Type}

/-- **What is done with sessions.** -/
inductive SessionStep (α : Type) where
  /-- one is opened under an id -/
  | insert (id : SessionId) (session : α) (now : Nat)
  /-- one is looked up, and thereby used -/
  | get (id : SessionId) (now : Nat)
  /-- one is closed -/
  | remove (id : SessionId)
  /-- those are closed that were idle for too long -/
  | sweep (now maxIdle : Nat)

namespace SessionStep

/-- Whether a step can have to do with the session of an id; a sweep can with any. -/
def concerns (id : SessionId) : SessionStep α → Bool
  | .insert id' _ _ => id' = id
  | .get id' _ => id' = id
  | .remove id' => id' = id
  | .sweep _ _ => true

/-- **What a step does to the session of an id**, if one is open. -/
def affect (id : SessionId) :
    SessionStep α → Option (Sessions.Entry α) → Option (Sessions.Entry α)
  | .insert id' session now, e => if id' = id then some { id, session, lastUsed := now } else e
  | .get id' now, e => if id' = id then e.map ({ · with lastUsed := now }) else e
  | .remove id', e => if id' = id then none else e
  | .sweep now maxIdle, e => e.filter (now - ·.lastUsed ≤ maxIdle)

theorem affect_of_not_concerns {id : SessionId} {step : SessionStep α}
    (h : step.concerns id = false) (e : Option (Sessions.Entry α)) : step.affect id e = e := by
  cases step with
  | sweep now maxIdle => cases h
  | _ => exact if_neg (of_decide_eq_false h)

end SessionStep

namespace Sessions

/-- **All open sessions after a step**; what fails leaves them as they are. -/
def step (s : Sessions α) : SessionStep α → Sessions α
  | .insert id session now => s.insert id session now
  | .get id now =>
    match s.get id now with
    | .ok (_, s') => s'
    | .error _ => s
  | .remove id =>
    match s.remove id with
    | .ok (_, s') => s'
    | .error _ => s
  | .sweep now maxIdle => (s.sweep now maxIdle).1

/-- **All open sessions after a history** of steps, none being open before. -/
def after (history : List (SessionStep α)) : Sessions α := history.foldl step {}

variable {s : Sessions α} {history : List (SessionStep α)} {id : SessionId} {x : α}

@[simp] theorem after_concat (history : List (SessionStep α)) (last : SessionStep α) :
    after (history ++ [last]) = (after history).step last := by
  simp only [after, List.foldl_append, List.foldl_cons, List.foldl_nil]

/-- **A step does to the session of an id what it does to it alone.** -/
theorem held?_step (s : Sessions α) (step : SessionStep α) (id : SessionId) :
    (s.step step).held? id = step.affect id (s.held? id) := by
  cases step with
  | insert id' session now =>
    rw [Sessions.step, held?_insert, SessionStep.affect]
    by_cases h : id' = id
    · simp [h]
    · simp [h]
  | get id' now =>
    simp only [Sessions.step, get, find?_eq_map_held?, SessionStep.affect]
    rcases he : s.held? id' with _ | e
    · by_cases h : id' = id
      · subst h
        simp [he]
      · simp [h]
    · simp only [Option.map_some]
      rw [held?_update]
      by_cases h : id' = id
      · subst h
        simp [he]
      · simp [h, Ne.symm h]
  | remove id' =>
    simp only [Sessions.step, remove, find?_eq_map_held?, SessionStep.affect]
    rcases he : s.held? id' with _ | e
    · by_cases h : id' = id
      · subst h
        simp [he]
      · simp [h]
    · exact held?_keepOnly_ne s id' id
  | sweep now maxIdle => exact held?_keepOnly s _ id

/-! ### Recorded uses -/

/-- **The use of a session that a step records**: that it is opened, or looked up and found. -/
def use? (s : Sessions α) (id : SessionId) : SessionStep α → Option Nat
  | .insert id' _ now => if id' = id then some now else none
  | .get id' now => if id' = id ∧ (s.get id now).isOk then some now else none
  | _ => none

/-- The uses of a session that are recorded one after the other. -/
def uses (id : SessionId) : Sessions α → List (SessionStep α) → List Nat
  | _, [] => []
  | s, step :: rest => (s.use? id step).toList ++ uses id (s.step step) rest

/-- **The use of a session that was recorded last** in a history. -/
def lastUse? (id : SessionId) (history : List (SessionStep α)) : Option Nat :=
  (uses id {} history).getLast?

theorem uses_concat (s : Sessions α) (history : List (SessionStep α)) (last : SessionStep α) :
    uses id s (history ++ [last]) =
      uses id s history ++ ((history.foldl step s).use? id last).toList := by
  induction history generalizing s with
  | nil => simp [uses]
  | cons first rest ih => simp [uses, ih]

theorem lastUse?_concat (history : List (SessionStep α)) (last : SessionStep α) :
    lastUse? id (history ++ [last]) =
      ((after history).use? id last).or (lastUse? id history) := by
  rw [lastUse?, uses_concat, List.getLast?_append, lastUse?, after]
  rcases (history.foldl step {}).use? id last with _ | now
  · rfl
  · rfl

/-- A lookup is recorded if the session is open. -/
theorem use?_get (s : Sessions α) (id : SessionId) (now : Nat) :
    s.use? id (.get id now) = (s.held? id).map fun _ => now := by
  simp only [use?, get, find?_eq_map_held?]
  rcases s.held? id with _ | e
  · simp [Except.isOk, Except.toBool]
  · simp [Except.isOk, Except.toBool]

/-- What does not concern a session is no use of it. -/
theorem use?_of_not_concerns {step : SessionStep α} (h : step.concerns id = false) :
    s.use? id step = none := by
  cases step with
  | insert id' session now => exact if_neg (of_decide_eq_false h)
  | get id' now => exact if_neg fun hget => of_decide_eq_false h hget.1
  | _ => rfl

/-- **An open session knows the use of it that was recorded last.** -/
theorem lastUse?_of_held? {e : Entry α} (he : (after history).held? id = some e) :
    lastUse? id history = some e.lastUsed := by
  induction history using List.reverseRecOn generalizing e with
  | nil => cases he
  | append_singleton history last ih =>
    rw [after_concat, held?_step] at he
    rw [lastUse?_concat]
    by_cases hconcerns : last.concerns id = true
    · cases last with
      | insert id' session now =>
        obtain rfl : id' = id := of_decide_eq_true hconcerns
        simp only [SessionStep.affect, if_true, Option.some.injEq] at he
        simp [use?, ← he]
      | get id' now =>
        obtain rfl : id' = id := of_decide_eq_true hconcerns
        simp only [SessionStep.affect, if_true] at he
        obtain ⟨e₀, he₀, rfl⟩ := Option.map_eq_some_iff.mp he
        rw [use?_get, he₀]
        rfl
      | remove id' =>
        obtain rfl : id' = id := of_decide_eq_true hconcerns
        simp [SessionStep.affect] at he
      | sweep now maxIdle => exact ih (Option.filter_eq_some_iff.mp he).1
    · rw [Bool.not_eq_true] at hconcerns
      rw [SessionStep.affect_of_not_concerns hconcerns] at he
      rw [use?_of_not_concerns hconcerns]
      exact ih he

/-! ### Lives -/

/-- **A session lives on** through what is done after it was opened. -/
structure LivesOn (front : List (SessionStep α)) (id : SessionId) (x : α) (now : Nat)
    (back : List (SessionStep α)) : Prop where
  /-- it is not closed, and no other one is opened under its id -/
  kept : ∀ step ∈ back, step ≠ .remove id ∧ ∀ y now', step ≠ .insert id y now'
  /-- each sweep comes soon enough after the use of it that was recorded last -/
  spared : ∀ mid time maxIdle rest, back = mid ++ .sweep time maxIdle :: rest →
    ∃ used, lastUse? id (front ++ .insert id x now :: mid) = some used ∧ time - used ≤ maxIdle

/-- A session lives on as long as nothing is done. -/
theorem livesOn_nil (front : List (SessionStep α)) (id : SessionId) (x : α) (now : Nat) :
    LivesOn front id x now [] where
  kept := fun _ hstep => absurd hstep List.not_mem_nil
  spared := by
    intro mid time maxIdle rest hnil
    simp at hnil

/-- **What one more step means for a session that was opened.** -/
theorem livesOn_concat {front back : List (SessionStep α)} {now : Nat} {last : SessionStep α} :
    LivesOn front id x now (back ++ [last]) ↔
      LivesOn front id x now back ∧ (last ≠ .remove id ∧ ∀ y now', last ≠ .insert id y now') ∧
        ∀ time maxIdle, last = .sweep time maxIdle →
          ∃ used, lastUse? id (front ++ .insert id x now :: back) = some used ∧
            time - used ≤ maxIdle := by
  constructor
  · intro h
    refine ⟨⟨fun step hstep => h.kept step (List.mem_append_left _ hstep), ?_⟩,
      h.kept last (List.mem_append_right _ List.mem_cons_self), ?_⟩
    · rintro mid time maxIdle rest rfl
      exact h.spared mid time maxIdle (rest ++ [last]) (by simp)
    · rintro time maxIdle rfl
      exact h.spared back time maxIdle [] rfl
  · rintro ⟨h, hkept, hspared⟩
    refine ⟨fun step hstep => ?_, fun mid time maxIdle rest hback => ?_⟩
    · rcases List.mem_append.mp hstep with hstep | hstep
      · exact h.kept step hstep
      · rw [List.mem_singleton.mp hstep]
        exact hkept
    · -- the sweep is the last step, or it came before it
      rcases List.eq_nil_or_concat' rest with rfl | ⟨rest, last', rfl⟩
      · obtain ⟨rfl, hlast⟩ := List.append_inj' hback rfl
        exact hspared time maxIdle (List.singleton_inj.mp hlast)
      · rw [← List.cons_append, ← List.append_assoc] at hback
        obtain ⟨rfl, -⟩ := List.append_inj' hback rfl
        exact h.spared mid time maxIdle rest rfl

/-- **A session lives** after a history in which it was opened and lives on. -/
def Lives (history : List (SessionStep α)) (id : SessionId) (x : α) : Prop :=
  ∃ front now back, history = front ++ .insert id x now :: back ∧ LivesOn front id x now back

/-- **What a step means for a life**: it begins it, or it leaves it alone. -/
theorem lives_concat {last : SessionStep α} :
    Lives (history ++ [last]) id x ↔
      (∃ now, last = .insert id x now) ∨
        Lives history id x ∧ (last ≠ .remove id ∧ ∀ y now, last ≠ .insert id y now) ∧
          ∀ time maxIdle, last = .sweep time maxIdle →
            ∃ used, lastUse? id history = some used ∧ time - used ≤ maxIdle := by
  constructor
  · rintro ⟨front, now, back, hsplit, hlives⟩
    rcases List.eq_nil_or_concat' back with rfl | ⟨back, last', rfl⟩
    · obtain ⟨-, hlast⟩ := List.append_inj' hsplit rfl
      exact .inl ⟨now, List.singleton_inj.mp hlast⟩
    · rw [← List.cons_append, ← List.append_assoc] at hsplit
      obtain ⟨rfl, hlast⟩ := List.append_inj' hsplit rfl
      obtain rfl : last = last' := List.singleton_inj.mp hlast
      obtain ⟨hbefore, hkept, hspared⟩ := livesOn_concat.mp hlives
      exact .inr ⟨⟨front, now, back, rfl, hbefore⟩, hkept, hspared⟩
  · rintro (⟨now, rfl⟩ | ⟨⟨front, now, back, rfl, hlives⟩, hkept, hspared⟩)
    · exact ⟨history, now, [], rfl, livesOn_nil history id x now⟩
    · exact ⟨front, now, back ++ [last], by simp, livesOn_concat.mpr ⟨hlives, hkept, hspared⟩⟩

/-- **What a step means for an open session**: it opens it, or it leaves it open. -/
theorem find?_step_eq_some_iff {last : SessionStep α} :
    (s.step last).find? id = some x ↔
      (∃ now, last = .insert id x now) ∨
        ∃ e, s.held? id = some e ∧ e.session = x ∧
          (last ≠ .remove id ∧ ∀ y now, last ≠ .insert id y now) ∧
          ∀ time maxIdle, last = .sweep time maxIdle → time - e.lastUsed ≤ maxIdle := by
  rw [find?_eq_map_held?, held?_step]
  cases last with
  | insert id' session now =>
    by_cases h : id' = id
    · simp [SessionStep.affect, h]
    · simp [SessionStep.affect, h]
  | get id' now =>
    by_cases h : id' = id
    · simp [SessionStep.affect, h]
    · simp [SessionStep.affect, h]
  | remove id' =>
    by_cases h : id' = id
    · simp [SessionStep.affect, h]
    · simp [SessionStep.affect, h]
  | sweep now maxIdle =>
    simp [SessionStep.affect, Option.filter_eq_some_iff, and_assoc, and_comm]

/-- **A session is open exactly if it lives.** -/
theorem find?_after_eq_some_iff : (after history).find? id = some x ↔ Lives history id x := by
  induction history using List.reverseRecOn with
  | nil =>
    refine iff_of_false (fun h => by cases h) ?_
    rintro ⟨front, now, back, hsplit, -⟩
    simp at hsplit
  | append_singleton history last ih =>
    rw [lives_concat, ← ih, after_concat, find?_step_eq_some_iff]
    refine or_congr_right ?_
    -- an open session knows its last use, so that the sweep and the history judge by the same
    constructor
    · rintro ⟨e, he, hx, hkept, hspared⟩
      refine ⟨?_, hkept, fun time maxIdle hlast => ?_⟩
      · rw [find?_eq_map_held?, he, ← hx]
        rfl
      · exact ⟨e.lastUsed, lastUse?_of_held? he, hspared time maxIdle hlast⟩
    · rintro ⟨hfind, hkept, hspared⟩
      obtain ⟨e, he, hx⟩ := Option.map_eq_some_iff.mp hfind
      refine ⟨e, he, hx, hkept, fun time maxIdle hlast => ?_⟩
      obtain ⟨used, hused, hle⟩ := hspared time maxIdle hlast
      obtain rfl : e.lastUsed = used := Option.some.inj ((lastUse?_of_held? he).symm.trans hused)
      exact hle

/-! ### Answers -/

/-- Looking up a session succeeds exactly if it is open. -/
theorem exists_get_eq_ok_iff {now : Nat} :
    (∃ s', s.get id now = .ok (x, s')) ↔ s.find? id = some x := by
  unfold get
  rcases s.find? id with _ | y
  · simp
  · simp

/-- Closing a session succeeds exactly if it is open. -/
theorem exists_remove_eq_ok_iff : (∃ s', s.remove id = .ok (x, s')) ↔ s.find? id = some x := by
  unfold remove
  rcases s.find? id with _ | y
  · simp
  · simp

/-- **A sweep closes the sessions that were idle for too long.** -/
theorem find?_sweep_eq_none_iff {now maxIdle : Nat} :
    s.find? id ≠ none ∧ (s.sweep now maxIdle).1.find? id = none ↔
      ∃ e ∈ s.entries, e.id = id ∧ ¬now - e.lastUsed ≤ maxIdle := by
  have hafter : (s.sweep now maxIdle).1.held? id =
      (s.held? id).filter (now - ·.lastUsed ≤ maxIdle) := held?_keepOnly s _ id
  rw [find?_eq_map_held?, find?_eq_map_held?, hafter]
  constructor
  · rintro ⟨hbefore, hafter⟩
    rcases he : s.held? id with _ | e
    · simp [he] at hbefore
    · obtain ⟨hmem, hid⟩ := held?_eq_some_iff.mp he
      exact ⟨e, hmem, hid, by simpa [he, Option.filter] using hafter⟩
  · rintro ⟨e, hmem, hid, hidle⟩
    rw [held?_eq_some_iff.mpr ⟨hmem, hid⟩]
    simpa [Option.filter] using hidle

/-- **A sweep tells how many sessions it closes.** -/
theorem encard_swept (s : Sessions α) (now maxIdle : Nat) :
    {id | s.find? id ≠ none ∧ (s.sweep now maxIdle).1.find? id = none}.encard =
      (s.sweep now maxIdle).2 := by
  let spared (e : Entry α) : Bool := now - e.lastUsed ≤ maxIdle
  let swept : List SessionId := (s.entries.filter fun e => !spared e).map (·.id)
  have hnodup : swept.Nodup := (List.filter_sublist.map _).nodup s.nodup
  have hcount : (s.sweep now maxIdle).2 = swept.length := by
    have hlength := List.length_eq_length_filter_add (l := s.entries) spared
    change s.entries.length - (s.entries.filter spared).length = swept.length
    rw [List.length_map]
    omega
  have hswept : {id | s.find? id ≠ none ∧ (s.sweep now maxIdle).1.find? id = none} =
      (swept.toFinset : Set SessionId) := by
    ext id
    rw [Set.mem_ofPred_eq, find?_sweep_eq_none_iff, Finset.mem_coe, List.mem_toFinset,
      List.mem_map]
    simp [spared, and_assoc, and_comm]
  rw [hswept, Set.encard_coe_eq_coe_finsetCard, List.toFinset_card_of_nodup hnodup, hcount]

/-- What is done with other sessions does not matter. -/
theorem held?_after_filter_concerns (id : SessionId) (history : List (SessionStep α)) :
    (after (history.filter (·.concerns id))).held? id = (after history).held? id := by
  induction history using List.reverseRecOn with
  | nil => rfl
  | append_singleton history last ih =>
    rw [List.filter_append, after_concat, held?_step, ← ih]
    by_cases h : last.concerns id = true
    · rw [List.filter_cons_of_pos h, List.filter_nil, after_concat, held?_step]
    · rw [List.filter_cons_of_neg h, List.filter_nil, List.append_nil]
      exact (SessionStep.affect_of_not_concerns (Bool.eq_false_iff.mpr h) _).symm

/-- **A session is open exactly as long as the history says.** It is open if it was opened and not
closed since, and at each sweep since then the time from the use of it that was recorded last was
within the limit. Looking it up and closing it succeed exactly then, a sweep tells the number of
sessions that it closes, and what is done with other sessions never matters. -/
theorem lifetime_after (history : List (SessionStep α)) :
    (∀ id x, (after history).find? id = some x ↔ Lives history id x) ∧
    (∀ id x now, (∃ s, (after history).get id now = .ok (x, s)) ↔ Lives history id x) ∧
    (∀ id x, (∃ s, (after history).remove id = .ok (x, s)) ↔ Lives history id x) ∧
    (∀ now maxIdle,
      {id | (∃ x, Lives history id x) ∧
          ¬∃ x, Lives (history ++ [.sweep now maxIdle]) id x}.encard =
        ((after history).sweep now maxIdle).2) ∧
    ∀ id, (after (history.filter (·.concerns id))).find? id = (after history).find? id := by
  refine ⟨fun id x => find?_after_eq_some_iff, fun id x now => ?_, fun id x => ?_,
    fun now maxIdle => ?_, fun id => ?_⟩
  · rw [exists_get_eq_ok_iff, find?_after_eq_some_iff]
  · rw [exists_remove_eq_ok_iff, find?_after_eq_some_iff]
  · rw [← encard_swept]
    refine congrArg Set.encard (Set.ext fun id => ?_)
    have hsweep : ((after history).sweep now maxIdle).1 =
        after (history ++ [.sweep now maxIdle]) := by
      rw [after_concat]
      rfl
    simp only [Set.mem_ofPred_eq, hsweep, ← find?_after_eq_some_iff, Option.ne_none_iff_exists',
      ← Option.isSome_iff_exists, Option.not_isSome_iff_eq_none]
  · rw [find?_eq_map_held?, held?_after_filter_concerns, find?_eq_map_held?]

end Sessions

end JudgeDesk
