import Mathlib.Data.List.Nodup
import JudgeDesk.Sessions.Basic

/-!
# Looking up sessions

Sessions are read one id at a time. What is done with the session of one id does not show under any
other.

* `Sessions.held?` — the session of an id, with its last use;
* `Sessions.held?_update`, `Sessions.held?_keepOnly`, `Sessions.held?_insert` — what it is after
  the sessions were changed, thinned out or added to;
* `Sessions.get_of_find?` — using a session finds it, and changes none;
* `Sessions.find?_set_self`, `Sessions.find?_insert_self` — a session is found as it was put there.
-/

namespace JudgeDesk.Sessions

variable {α : Type} {s : Sessions α} {id : SessionId} {x : α}

/-! ### Entries -/

/-- The session of an id, with its last use. -/
def held? (s : Sessions α) (id : SessionId) : Option (Entry α) := s.entries.find? (·.id = id)

theorem find?_eq_map_held? (s : Sessions α) (id : SessionId) :
    s.find? id = (s.held? id).map (·.session) := rfl

/-- A session is held under its id, and under no other. -/
theorem held?_eq_some_iff {e : Entry α} : s.held? id = some e ↔ e ∈ s.entries ∧ e.id = id := by
  have hfound {e : Entry α} (h : s.held? id = some e) : e ∈ s.entries ∧ e.id = id :=
    ⟨List.mem_of_find?_eq_some h, by simpa only [decide_eq_true_eq] using List.find?_some h⟩
  refine ⟨hfound, fun ⟨hmem, hid⟩ => ?_⟩
  rcases h : s.held? id with _ | e'
  · exact absurd (decide_eq_true hid) (List.find?_eq_none.mp h e hmem)
  · obtain ⟨hmem', hid'⟩ := hfound h
    rw [List.inj_on_of_nodup_map s.nodup hmem' hmem (hid'.trans hid.symm)]

/-- **A session that is changed** is found changed, and no other is. -/
theorem held?_update (s : Sessions α) (id id' : SessionId) (f : Entry α → α × Nat) :
    (s.update id f).held? id' = (s.held? id').map fun e =>
      if id' = id then { id := e.id, session := (f e).1, lastUsed := (f e).2 } else e := by
  have hid : ((fun e : Entry α => decide (e.id = id')) ∘ fun e =>
      if e.id = id then { id := e.id, session := (f e).1, lastUsed := (f e).2 } else e) =
        fun e => decide (e.id = id') := by
    funext e
    simp only [Function.comp_apply]
    split <;> rfl
  rw [held?, update, List.find?_map, hid]
  refine Option.map_congr fun e he => ?_
  rw [(held?_eq_some_iff.mp he).2]

/-- **Some of the sessions**: one is found if it was there and passes. -/
theorem held?_keepOnly (s : Sessions α) (p : Entry α → Bool) (id : SessionId) :
    (s.keepOnly p).held? id = (s.held? id).filter p := by
  refine Option.ext fun e => ?_
  rw [Option.filter_eq_some_iff, held?_eq_some_iff, held?_eq_some_iff, keepOnly, List.mem_filter]
  exact and_right_comm

/-- A session that is not closed is still found. -/
theorem held?_keepOnly_ne (s : Sessions α) (id id' : SessionId) :
    (s.keepOnly (·.id ≠ id)).held? id' = if id = id' then none else s.held? id' := by
  rw [held?_keepOnly]
  rcases he : s.held? id' with _ | e
  · simp
  · obtain rfl := (held?_eq_some_iff.mp he).2
    by_cases h : id = e.id
    · simp [h]
    · simp [h, Ne.symm h]

/-- **A session that is opened** is found, and all others are found as they were. -/
theorem held?_insert (s : Sessions α) (id id' : SessionId) (x : α) (now : Nat) :
    (s.insert id x now).held? id' =
      if id = id' then some { id, session := x, lastUsed := now } else s.held? id' := by
  have hold := held?_keepOnly_ne s id id'
  unfold held? at hold ⊢
  rw [insert, List.find?_append, hold]
  by_cases h : id = id'
  · simp [h]
  · simp [h]

/-! ### Sessions -/

/-- **A session that is changed** is found changed, and no other is. -/
theorem find?_update (s : Sessions α) (id id' : SessionId) (f : Entry α → α × Nat) :
    (s.update id f).find? id' =
      (s.entries.find? (·.id = id')).map fun e => if id' = id then (f e).1 else e.session := by
  rw [find?_eq_map_held?, held?_update, Option.map_map]
  refine Option.map_congr fun e _ => ?_
  rw [Function.comp_apply]
  split <;> rfl

/-- **Using a session** finds it, and leaves all sessions as they are. -/
theorem get_of_find? (h : s.find? id = some x) (now : Nat) :
    ∃ s' : Sessions α, s.get id now = .ok (x, s') ∧ ∀ id', s'.find? id' = s.find? id' := by
  refine ⟨s.update id fun e => (e.session, now), ?_, fun id' => ?_⟩
  · simp only [get, h]
  · rw [find?_update, find?]
    refine Option.map_congr fun e _ => ?_
    split <;> rfl

/-- A session that is changed is found as it was changed. -/
theorem find?_set_self (h : s.find? id = some x) (y : α) : (s.set id y).find? id = some y := by
  obtain ⟨e, he, -⟩ := Option.map_eq_some_iff.mp h
  rw [set, find?_update, he, Option.map_some, if_pos rfl]

/-- A session that is opened is found. -/
theorem find?_insert_self (s : Sessions α) (id : SessionId) (x : α) (now : Nat) :
    (s.insert id x now).find? id = some x := by
  rw [find?_eq_map_held?, held?_insert, if_pos rfl, Option.map_some]

end JudgeDesk.Sessions
