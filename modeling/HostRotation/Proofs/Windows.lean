/-
# Delays and their windows

A window is built around an interval, with the jitter on both sides, and a delay
is drawn from it as a 64-bit word. No draw leaves the window (`contains_draw`),
and the ends of the window are exactly the interval less and plus the jitter
(`contains_iff_of_around`). So what a delay may be can be said in the terms of
the settings that a balancer is built from (`SettingsBuilder.Allows`).
-/
import HostRotation.Settings
import HostRotation.Task

namespace HostRotation
namespace JitterWindow

variable {w : JitterWindow} {interval jitter d : Duration}

theorem contains_iff : w.contains d = true ↔
    w.lower.total ≤ d.total ∧ d.total ≤ w.upper.total := by
  simp [contains]

/-- Nothing of the ends is lost in a 64-bit word. -/
theorem toNat_lower (w : JitterWindow) : w.lower.toWord.toNat = w.lower.total :=
  Duration.toNat_toWord (Nat.lt_of_le_of_lt w.lower_le_upper w.upper_lt)

theorem toNat_upper (w : JitterWindow) : w.upper.toWord.toNat = w.upper.total :=
  Duration.toNat_toWord w.upper_lt

theorem toWord_le (w : JitterWindow) : w.lower.toWord ≤ w.upper.toWord := by
  rw [UInt64.le_iff_toNat_le, toNat_lower, toNat_upper]
  exact w.lower_le_upper

/-- The words drawn for a window are as many as it has nanoseconds. -/
theorem toNat_span (w : JitterWindow) :
    (w.upper.toWord - w.lower.toWord + 1).toNat = w.upper.total - w.lower.total + 1 := by
  have hpos := w.lower_pos
  have hlt := w.upper_lt
  rw [UInt64.toNat_add, UInt64.toNat_sub_of_le _ _ w.toWord_le, toNat_lower, toNat_upper,
    UInt64.toNat_one]
  refine Nat.mod_eq_of_lt ?_
  simp only [UInt64.size] at hlt
  omega

theorem total_delayOf (w : JitterWindow) (word : UInt64) :
    (w.delayOf word).total =
      w.lower.total + word.toNat % (w.upper.total - w.lower.total + 1) := by
  have hrest : word.toNat % (w.upper.total - w.lower.total + 1) <
      w.upper.total - w.lower.total + 1 := Nat.mod_lt _ (Nat.succ_pos _)
  have hle := w.lower_le_upper
  have hlt := w.upper_lt
  rw [delayOf, Duration.total_ofWord, UInt64.toNat_add, UInt64.toNat_mod, toNat_span, toNat_lower]
  refine Nat.mod_eq_of_lt ?_
  simp only [UInt64.size] at hlt
  omega

/-- Whatever the random word, the delay it stands for lies in the window. -/
theorem contains_delayOf (w : JitterWindow) (word : UInt64) :
    w.contains (w.delayOf word) = true := by
  have hrest : word.toNat % (w.upper.total - w.lower.total + 1) <
      w.upper.total - w.lower.total + 1 := Nat.mod_lt _ (Nat.succ_pos _)
  have hle := w.lower_le_upper
  rw [contains_iff, total_delayOf]
  omega

theorem contains_draw (w : JitterWindow) (tape : Tape) :
    w.contains (w.draw tape).1 = true :=
  w.contains_delayOf _

/-- The ends of a window are the interval less and plus the jitter. -/
theorem total_of_around (h : around interval jitter = .ok w) :
    w.lower.total + jitter.total = interval.total ∧
      w.upper.total = interval.total + jitter.total := by
  revert h
  fun_cases around interval jitter with
  | case4 _ lower hlower _ upper hupper _ =>
    rintro ⟨⟩
    obtain ⟨hle, hsub⟩ := Duration.sub?_eq_some_iff.mp hlower
    refine ⟨?_, Duration.add?_eq_some_iff.mp hupper⟩
    show lower.total + jitter.total = interval.total
    rw [hsub, Nat.sub_add_cancel hle]
  | _ => nofun

theorem contains_iff_of_around (h : around interval jitter = .ok w) : w.contains d = true ↔
    interval.total ≤ d.total + jitter.total ∧ d.total ≤ interval.total + jitter.total := by
  obtain ⟨hlower, hupper⟩ := total_of_around h
  rw [contains_iff]
  omega

end JitterWindow

namespace SettingsBuilder

/-- The delay of a task is from the interval less the jitter to the interval plus
the jitter, both ends included, of those given for tasks of its kind. -/
def Allows (builder : SettingsBuilder) (task : Task) : Prop :=
  match task.kind with
  | .health _ =>
    builder.healthInterval.total ≤ task.delay.total + builder.healthJitter.total ∧
      task.delay.total ≤ builder.healthInterval.total + builder.healthJitter.total
  | .resubscribe =>
    builder.resubscribeInterval.total ≤ task.delay.total + builder.resubscribeJitter.total ∧
      task.delay.total ≤ builder.resubscribeInterval.total + builder.resubscribeJitter.total

variable {builder : SettingsBuilder} {settings : Settings}

/-- Settings that are built have the windows of the intervals and jitters given. -/
theorem windows_build (hb : builder.build = .ok settings) :
    (∀ plan, settings.health = some plan →
      JitterWindow.around builder.healthInterval builder.healthJitter = .ok plan.window) ∧
      JitterWindow.around builder.resubscribeInterval builder.resubscribeJitter =
        .ok settings.resubscribe := by
  obtain ⟨_, -, hb⟩ := of_bind_eq_ok hb
  obtain ⟨window, hwindow, hb⟩ := of_bind_eq_ok hb
  obtain ⟨resubscribe, hresubscribe, hb⟩ := of_bind_eq_ok hb
  obtain rfl := Except.ok.inj hb
  refine ⟨fun plan hplan => ?_, hresubscribe⟩
  dsimp only at hplan
  split at hplan
  · obtain rfl := Option.some.inj hplan
    exact hwindow
  · cases hplan

end SettingsBuilder
end HostRotation
