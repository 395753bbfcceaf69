import JudgeDesk.Error

/-!
# Open sessions

Editors and viewers stay open between requests, each under its id. A session that nobody uses for
too long is closed. Time is given from outside, in milliseconds since some start.

* `Sessions` — what is open;
* `insert`, `get`, `set`, `remove` — opening, using, changing and closing a session;
* `sweep` — closing all that were idle for too long.
-/

namespace JudgeDesk

/-- **An open session.** -/
structure Sessions.Entry (α : Type) where
  /-- its id -/
  id : SessionId
  /-- the session itself -/
  session : α
  /-- when it was opened or last asked for -/
  lastUsed : Nat

/-- **All open sessions**, the one opened first in front. -/
structure Sessions (α : Type) where
  /-- the sessions -/
  entries : List (Sessions.Entry α) := []
  /-- no two of them share an id -/
  nodup : (entries.map (·.id)).Nodup := by exact List.nodup_nil

namespace Sessions

variable {α : Type}

/-- The number of open sessions. -/
def count (s : Sessions α) : Nat := s.entries.length

/-- The session of an id. -/
def find? (s : Sessions α) (id : SessionId) : Option α :=
  (s.entries.find? (·.id = id)).map (·.session)

/-- Some of the open sessions. -/
def keepOnly (s : Sessions α) (p : Entry α → Bool) : Sessions α where
  entries := s.entries.filter p
  nodup := (List.filter_sublist.map _).nodup s.nodup

/-- All open sessions, one of them changed. -/
def update (s : Sessions α) (id : SessionId) (f : Entry α → α × Nat) : Sessions α where
  entries := s.entries.map fun e =>
    if e.id = id then { id := e.id, session := (f e).1, lastUsed := (f e).2 } else e
  nodup := by
    have same : ((fun e : Entry α => e.id) ∘ fun e : Entry α =>
        if e.id = id then { id := e.id, session := (f e).1, lastUsed := (f e).2 } else e)
        = fun e => e.id := by
      funext e
      simp only [Function.comp_apply]
      split <;> rfl
    rw [List.map_map, same]
    exact s.nodup

/-- **Opening** a session, in place of one that had the id. -/
def insert (s : Sessions α) (id : SessionId) (session : α) (now : Nat) : Sessions α where
  entries := (s.keepOnly (·.id ≠ id)).entries ++ [{ id, session, lastUsed := now }]
  nodup := by
    rw [List.map_append, List.nodup_append]
    refine ⟨(s.keepOnly _).nodup, List.pairwise_singleton _ _, ?_⟩
    intro a ha b hb
    obtain ⟨e, he, rfl⟩ := List.mem_map.mp ha
    have hb : b = id := by simpa using hb
    have := (List.mem_filter.mp he).2
    simpa [hb] using this

/-- **Using** a session: it is not idle any more. -/
def get (s : Sessions α) (id : SessionId) (now : Nat) : Except Error (α × Sessions α) :=
  match s.find? id with
  | some session => .ok (session, s.update id fun e => (e.session, now))
  | none => .error (.notFound (.session id))

/-- Changing a session; this is no use of it. -/
def set (s : Sessions α) (id : SessionId) (session : α) : Sessions α :=
  s.update id fun e => (session, e.lastUsed)

/-- **Closing** a session. -/
def remove (s : Sessions α) (id : SessionId) : Except Error (α × Sessions α) :=
  match s.find? id with
  | some session => .ok (session, s.keepOnly (·.id ≠ id))
  | none => .error (.notFound (.session id))

/-- **Sweeping**: every session is closed that was idle for longer than allowed, and the number of
these is told. A session that was used later than now was not idle at all. -/
def sweep (s : Sessions α) (now maxIdle : Nat) : Sessions α × Nat :=
  let kept := s.keepOnly fun e => now - e.lastUsed ≤ maxIdle
  (kept, s.count - kept.count)

end Sessions

end JudgeDesk
