import ParenCalc.Console

namespace ParenCalc

namespace Console

@[simp]
theorem stdout_append (events rest : List Event) :
    stdout (events ++ rest) = stdout events ++ stdout rest := by
  simp [stdout, String.join_append]

@[simp]
theorem stderr_append (configured : Option Nat) (events rest : List Event) :
    stderr configured (events ++ rest) = stderr configured events ++ stderr configured rest := by
  simp [stderr, String.join_append]

@[simp]
theorem stdout_log (log : List Log.Entry) : stdout (log.map .log) = "" := by
  induction log with
  | nil => rfl
  | cons entry log ih =>
    unfold stdout at ih ⊢
    rw [List.map_cons, List.map_cons, String.join_cons, ih]
    rfl

def errors (events : List Event) : String :=
  String.join (events.map text)
where
  text : Event → String
    | .err text => text
    | _ => ""

def logged (events : List Event) : List Log.Entry :=
  events.filterMap entry?
where
  entry? : Event → Option Log.Entry
    | .log entry => some entry
    | _ => none

@[simp]
theorem errors_append (events rest : List Event) :
    errors (events ++ rest) = errors events ++ errors rest := by
  simp [errors, String.join_append]

@[simp]
theorem errors_log (log : List Log.Entry) : errors (log.map .log) = "" := by
  induction log with
  | nil => rfl
  | cons entry log ih =>
    unfold errors at ih ⊢
    rw [List.map_cons, List.map_cons, String.join_cons, ih]
    rfl

@[simp]
theorem logged_append (events rest : List Event) :
    logged (events ++ rest) = logged events ++ logged rest :=
  List.filterMap_append

@[simp]
theorem logged_log (log : List Log.Entry) : logged (log.map .log) = log := by
  induction log with
  | nil => rfl
  | cons entry log ih =>
    rw [List.map_cons, logged, List.filterMap_cons]
    exact congrArg (entry :: ·) ih

theorem logged_out {α : Type} (text : α → String) (entries : List α) :
    logged (entries.map fun entry => .out (text entry)) = [] := by
  induction entries with
  | nil => rfl
  | cons entry entries ih => exact ih

theorem stdout_out {α : Type} (text : α → String) (entries : List α) :
    stdout (entries.map fun entry => .out (text entry)) = String.join (entries.map text) := by
  unfold stdout
  rw [List.map_map]
  rfl

theorem errors_out {α : Type} (text : α → String) (entries : List α) :
    errors (entries.map fun entry => .out (text entry)) = "" := by
  induction entries with
  | nil => rfl
  | cons entry entries ih =>
    unfold errors at ih ⊢
    rw [List.map_cons, List.map_cons, String.join_cons, ih]
    rfl

end Console

namespace Log

def Quiet (log : List Entry) : Prop :=
  ∀ entry ∈ log, entry.level.rank ≤ Level.info.rank

def Hides (configured : Option Nat) : Prop :=
  ∀ threshold ∈ configured, Level.info.rank < threshold

theorem quiet_nil : Quiet [] := by
  intro entry hentry
  cases hentry

theorem Quiet.append {log rest : List Entry} (hlog : Quiet log) (hrest : Quiet rest) :
    Quiet (log ++ rest) := by
  intro entry hentry
  rcases List.mem_append.mp hentry with hentry | hentry
  . exact hlog entry hentry
  . exact hrest entry hentry

theorem Quiet.of_level {log : List Entry}
    (h : ∀ entry ∈ log, entry.level = .debug ∨ entry.level = .info) :
    Quiet log := by
  intro entry hentry
  rcases h entry hentry with hlevel | hlevel
  . rw [hlevel]
    decide
  . exact Nat.le_of_eq (congrArg Level.rank hlevel)

theorem quiet_singleton {entry : Entry} (h : entry.level = .debug ∨ entry.level = .info) :
    Quiet [entry] := by
  apply Quiet.of_level
  intro entry' hentry
  rw [List.mem_singleton.mp hentry]
  exact h

theorem render_singleton_of_hides {configured : Option Nat} {entry : Entry}
    (hconfigured : Hides configured)
    (hentry : entry.level.rank ≤ Level.info.rank) : render configured [entry] = "" := by
  unfold render
  cases configured with
  | none =>
    have hwarning : ¬ Level.warning.rank ≤ entry.level.rank := by
      simp only [Level.rank] at hentry ⊢
      omega
    simp [hwarning]
  | some threshold =>
    have hthreshold : ¬ threshold ≤ entry.level.rank := by
      have hinfo := hconfigured threshold rfl
      omega
    simp [hthreshold]

theorem hides_none : Hides none := by
  intro threshold hthreshold
  cases hthreshold

theorem hides_warning : Hides (some Level.warning.rank) := by
  intro threshold hthreshold
  rw [← Option.some.inj hthreshold]
  decide

end Log

namespace Console

theorem stderr_eq_errors {configured : Option Nat} {events : List Event}
    (hconfigured : Log.Hides configured)
    (hlog : Log.Quiet (logged events)) : stderr configured events = errors events := by
  unfold stderr errors
  congr 1
  apply List.map_congr_left
  intro event hevent
  cases event with
  | out text => rfl
  | err text => rfl
  | log entry =>
    have hentry : entry ∈ logged events := List.mem_filterMap.mpr ⟨.log entry, hevent, rfl⟩
    exact Log.render_singleton_of_hides hconfigured (hlog entry hentry)

theorem stderr_log {configured : Option Nat} {log : List Log.Entry}
    (hconfigured : Log.Hides configured)
    (hlog : Log.Quiet log) : stderr configured (log.map .log) = "" := by
  rw [← logged_log log] at hlog
  rw [stderr_eq_errors hconfigured hlog, errors_log]

end Console

end ParenCalc
