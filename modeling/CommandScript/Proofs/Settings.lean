import CommandScript.Preferences
import Mathlib.Data.List.TakeDrop
import Mathlib.Data.List.TakeWhile
import Mathlib.Tactic.Lemma

/-!
# The lines of a preferences text

Each line of a preferences text says something on its own: nothing, a setting, or something that
cannot be understood. The preferences of a text are the usual ones with its settings applied in
order, so that the last setting of a preference counts. Every line that is neither blank nor a
comment nor a setting is reported once, with its number. Two texts with a line break between them
are loaded one on top of the other.

## Main definitions

* `CommandScript.Preferences.Ignored`, `CommandScript.Preferences.Says`,
  `CommandScript.Preferences.Wrong` — what a line is, said without reading it.
* `CommandScript.Preferences.settings` — the settings of a text, in order.
* `CommandScript.Preferences.Loaded` — what the preferences and the warnings of a text have to be.

## Main results

* `CommandScript.Preferences.turned_foldl_set`, `CommandScript.Preferences.sender_foldl_set` — the
  last setting of a preference counts.
* `CommandScript.Preferences.lines_append` — the lines of two texts with a line break between them.
* `CommandScript.Preferences.lines_are_independent` — a text is loaded line by line.
-/

namespace CommandScript.Preferences

/-! ## What a line is -/

/-- A word for a truth value, in upper or lower case. -/
def Spells (word : String) (b : Bool) : Prop :=
  word.map Char.toLower ∈ if b then ["true", "yes", "on", "1"] else ["false", "no", "off", "0"]

/-- The setting that a key and a value stand for. -/
inductive Setting.Means (key value : String) : Setting → Prop
  /-- The key of a switch, and a word for a truth value. -/
  | turn {s : Switch} {b : Bool} : key = s.key → Spells value b → Means key value (.turn s b)
  /-- The key for the name of the console, and a name. -/
  | name : key = "sender-name" → value ≠ "" → Means key value (.name value)

/-- Why a key and a value stand for no setting. -/
inductive Setting.Refused (key value : String) : Fault → Prop
  | unknownKey : (∀ s : Switch, key ≠ s.key) → key ≠ "sender-name" →
      Refused key value (.unknownKey key)
  | noTruthValue {s : Switch} : key = s.key → (∀ b, ¬ Spells value b) →
      Refused key value (.noTruthValue key value)
  | noName : key = "sender-name" → value = "" → Refused key value .noName

/-- A blank line or a comment. -/
def Ignored (line : List Char) : Prop :=
  Text.strip line = [] ∨ ∃ rest, Text.strip line = '#' :: rest

/-- The key and the value of a line are what stands before and behind its first equals sign, without
the blanks around them. -/
def Divides (line : List Char) (key value : String) : Prop :=
  ∃ front back, Text.strip line = front ++ '=' :: back ∧ '=' ∉ front ∧
    key = String.ofList (Text.strip front) ∧ value = String.ofList (Text.strip back)

/-- A line with a setting. -/
def Says (line : List Char) (s : Setting) : Prop :=
  ¬ Ignored line ∧ ∃ key value, Divides line key value ∧ s.Means key value

/-- Why a line that is neither blank nor a comment says no setting. -/
def Wrong (line : List Char) (f : Fault) : Prop :=
  ¬ Ignored line ∧
    (('=' ∉ Text.strip line ∧ f = .noSetting (String.ofList (Text.strip line))) ∨
      ∃ key value, Divides line key value ∧ Setting.Refused key value f)

/-! ## Reading a key and a value -/

lemma truth?_eq_some_iff {word : String} {b : Bool} : truth? word = some b ↔ Spells word b := by
  unfold truth? Spells
  split <;> cases b <;> simp_all

lemma Switch.ofKey?_eq_some_iff {key : String} {s : Switch} :
    Switch.ofKey? key = some s ↔ key = s.key := by
  constructor
  · intro h
    rw [Switch.ofKey?] at h
    have hk := List.find?_some h
    exact (beq_iff_eq.1 hk).symm
  · rintro rfl
    cases s <;> decide

lemma Setting.read_of_means {key value : String} {s : Setting} (h : s.Means key value) :
    Setting.read key value = .ok s := by
  cases h with
  | turn hk hv =>
    simp only [Setting.read, Switch.ofKey?_eq_some_iff.2 hk, truth?_eq_some_iff.2 hv]
  | name hk hv =>
    have hnone : Switch.ofKey? "sender-name" = none := by decide
    simp [Setting.read, hk, hnone, hv]

lemma Setting.read_of_refused {key value : String} {f : Fault} (h : Refused key value f) :
    Setting.read key value = .error f := by
  cases h with
  | unknownKey hk hn =>
    have hnone : Switch.ofKey? key = none :=
      Option.eq_none_iff_forall_ne_some.2 fun s hs => hk s (Switch.ofKey?_eq_some_iff.1 hs)
    simp [Setting.read, hnone, hn]
  | noTruthValue hk hv =>
    have hnone : truth? value = none :=
      Option.eq_none_iff_forall_ne_some.2 fun b hb => hv b (truth?_eq_some_iff.1 hb)
    simp only [Setting.read, Switch.ofKey?_eq_some_iff.2 hk, hnone]
  | noName hk hv =>
    have hnone : Switch.ofKey? "sender-name" = none := by decide
    simp [Setting.read, hk, hnone, hv]

/-- A key and a value stand for a setting, or there is a reason why not. -/
lemma Setting.means_or_refused (key value : String) :
    (∃ s : Setting, s.Means key value) ∨ ∃ f, Setting.Refused key value f := by
  by_cases hk : ∃ s : Switch, key = s.key
  · obtain ⟨s, hk⟩ := hk
    by_cases hv : ∃ b, Spells value b
    · obtain ⟨b, hv⟩ := hv
      exact .inl ⟨_, .turn hk hv⟩
    · exact .inr ⟨_, .noTruthValue hk (not_exists.1 hv)⟩
  · by_cases hn : key = "sender-name"
    · by_cases hv : value = ""
      · exact .inr ⟨_, .noName hn hv⟩
      · exact .inl ⟨_, .name hn hv⟩
    · exact .inr ⟨_, .unknownKey (not_exists.1 hk) hn⟩

/-! ## Reading a line -/

lemma span_of_notMem {l : List Char} (h : '=' ∉ l) : l.span (· != '=') = (l, []) := by
  have hall : ∀ c ∈ l, (c != '=') = true := fun c hc => bne_iff_ne.2 fun he => h (he ▸ hc)
  rw [List.span_eq_takeWhile_dropWhile, List.takeWhile_eq_self_iff.2 hall,
    List.dropWhile_eq_nil_iff.2 hall]

lemma span_append {front : List Char} (h : '=' ∉ front) (back : List Char) :
    (front ++ '=' :: back).span (· != '=') = (front, '=' :: back) := by
  have hall : ∀ c ∈ front, (c != '=') = true := fun c hc => bne_iff_ne.2 fun he => h (he ▸ hc)
  rw [List.span_eq_takeWhile_dropWhile, List.takeWhile_append_of_pos hall,
    List.dropWhile_append_of_pos hall]
  simp

variable {line : List Char}

lemma Line.read_of_ignored (h : Ignored line) : Line.read line = .silent := by
  obtain h | ⟨rest, h⟩ := h <;> simp only [Line.read, h, Line.ofStripped]

lemma Line.read_of_notMem (hi : ¬ Ignored line) (h : '=' ∉ Text.strip line) :
    Line.read line = .faulty (.noSetting (String.ofList (Text.strip line))) := by
  unfold Line.read Line.ofStripped
  split
  · exact absurd (.inl ‹_›) hi
  · exact absurd (.inr ⟨_, ‹_›⟩) hi
  · simp only [span_of_notMem h]

lemma Line.read_of_divides {key value : String} (hi : ¬ Ignored line)
    (hd : Divides line key value) :
    (∀ s, Setting.read key value = .ok s → Line.read line = .setting s) ∧
      ∀ f, Setting.read key value = .error f → Line.read line = .faulty f := by
  obtain ⟨front, back, hl, hf, rfl, rfl⟩ := hd
  unfold Line.read Line.ofStripped
  split
  · exact absurd (.inl ‹_›) hi
  · exact absurd (.inr ⟨_, ‹_›⟩) hi
  · simp only [hl, span_append hf]
    constructor <;> intro _ h <;> rw [h]

lemma Line.read_of_says {s : Setting} (h : Says line s) : Line.read line = .setting s := by
  obtain ⟨hi, key, value, hd, hs⟩ := h
  exact (Line.read_of_divides hi hd).1 s (Setting.read_of_means hs)

lemma Line.read_of_wrong {f : Fault} (h : Wrong line f) : Line.read line = .faulty f := by
  obtain ⟨hi, ⟨hn, rfl⟩ | ⟨key, value, hd, hf⟩⟩ := h
  · exact Line.read_of_notMem hi hn
  · exact (Line.read_of_divides hi hd).2 f (Setting.read_of_refused hf)

/-- A line is blank or a comment, or it has a setting, or there is a reason why not. -/
lemma ignored_or_says_or_wrong (line : List Char) :
    Ignored line ∨ (∃ s, Says line s) ∨ ∃ f, Wrong line f := by
  by_cases hi : Ignored line
  · exact .inl hi
  by_cases hm : '=' ∈ Text.strip line
  · obtain ⟨front, back, hl, hf⟩ := List.eq_append_cons_of_mem hm
    have hd : Divides line _ _ := ⟨front, back, hl, hf, rfl, rfl⟩
    obtain ⟨s, hs⟩ | ⟨f, hf⟩ := Setting.means_or_refused _ _
    · exact .inr (.inl ⟨s, hi, _, _, hd, hs⟩)
    · exact .inr (.inr ⟨f, hi, .inr ⟨_, _, hd, hf⟩⟩)
  · exact .inr (.inr ⟨_, hi, .inl ⟨hm, rfl⟩⟩)

/-- A line is read as the setting that it has. -/
lemma Line.read_eq_setting_iff {s : Setting} : Line.read line = .setting s ↔ Says line s := by
  refine ⟨fun h => ?_, Line.read_of_says⟩
  obtain hl | ⟨t, hl⟩ | ⟨f, hl⟩ := ignored_or_says_or_wrong line
  · simp [Line.read_of_ignored hl] at h
  · have hst : t = s := by simpa [Line.read_of_says hl] using h
    exact hst ▸ hl
  · simp [Line.read_of_wrong hl] at h

/-- A line is read as faulty for the reason why it has no setting. -/
lemma Line.read_eq_faulty_iff {f : Fault} : Line.read line = .faulty f ↔ Wrong line f := by
  refine ⟨fun h => ?_, Line.read_of_wrong⟩
  obtain hl | ⟨s, hl⟩ | ⟨g, hl⟩ := ignored_or_says_or_wrong line
  · simp [Line.read_of_ignored hl] at h
  · simp [Line.read_of_says hl] at h
  · have hfg : g = f := by simpa [Line.read_of_wrong hl] using h
    exact hfg ▸ hl

/-- There is a reason exactly if a line is neither blank nor a comment nor has a setting. -/
lemma exists_wrong_iff : (∃ f, Wrong line f) ↔ ¬ Ignored line ∧ ¬ ∃ s, Says line s := by
  constructor
  · rintro ⟨f, hf⟩
    refine ⟨hf.1, ?_⟩
    rintro ⟨s, hs⟩
    simpa [Line.read_of_says hs] using Line.read_of_wrong hf
  · rintro ⟨hi, hs⟩
    obtain h | h | h := ignored_or_says_or_wrong line
    · exact absurd h hi
    · exact absurd h hs
    · exact h

/-! ## The last setting counts -/

/-- Whether a switch is on. -/
def turned (p : Preferences) : Switch → Bool
  | .debug => p.debug
  | .folding => p.folding
  | .privileged => p.privileged
  | .warnings => p.warnings

/-- What a setting turns a switch to, if it is about that switch. -/
def Setting.turned? (s : Switch) : Setting → Option Bool
  | .turn t b => if t = s then some b else none
  | .name _ => none

/-- The name that a setting gives to the console, if it does. -/
def Setting.sender? : Setting → Option String
  | .turn _ _ => none
  | .name n => some n

lemma turned_set (p : Preferences) (t : Setting) (s : Switch) :
    (p.set t).turned s = (t.turned? s).getD (p.turned s) := by
  cases t with
  | turn t b => cases t <;> cases s <;> rfl
  | name n => cases s <;> rfl

lemma sender_set (p : Preferences) (t : Setting) :
    (p.set t).sender = t.sender?.getD p.sender := by
  cases t with
  | turn t b => cases t <;> rfl
  | name n => rfl

/-- If each step replaces what is seen or leaves it, then after all steps the last replacement is
seen. -/
lemma seen_foldl {σ τ α : Type} {step : σ → τ → σ} (see : σ → α) {new? : τ → Option α}
    (h : ∀ p t, see (step p t) = (new? t).getD (see p)) (ts : List τ) (p : σ) :
    see (ts.foldl step p) = (ts.filterMap new?).getLast?.getD (see p) := by
  induction ts generalizing p with
  | nil => rfl
  | cons t ts ih =>
    rw [List.foldl_cons, ih, h]
    cases ht : new? t with
    | none => simp [ht]
    | some a => simp [ht, List.getLast?_cons]

theorem turned_foldl_set (ss : List Setting) (p : Preferences) (s : Switch) :
    (ss.foldl set p).turned s = (ss.filterMap (·.turned? s)).getLast?.getD (p.turned s) :=
  seen_foldl (fun p => p.turned s) (fun p t => turned_set p t s) ss p

theorem sender_foldl_set (ss : List Setting) (p : Preferences) :
    (ss.foldl set p).sender = (ss.filterMap Setting.sender?).getLast?.getD p.sender :=
  seen_foldl sender sender_set ss p

/-! ## The lines of a text -/

/-- A line break ends a line and starts another. -/
theorem lines_append (as bs : List Char) : lines (as ++ '\n' :: bs) = lines as ++ lines bs := by
  induction as with
  | nil => simp [lines]
  | cons c as ih =>
    by_cases hc : c = '\n'
    · simp [lines, hc, ih]
    · obtain ⟨l, ls, hl⟩ := List.exists_cons_of_ne_nil (lines_ne_nil as)
      simp [lines, hc, ih, hl]

lemma length_lines (as : List Char) : (lines as).length = as.count '\n' + 1 := by
  induction as with
  | nil => rfl
  | cons c as ih =>
    by_cases hc : c = '\n'
    · simp [lines, hc, ih]
    · obtain ⟨l, ls, hl⟩ := List.exists_cons_of_ne_nil (lines_ne_nil as)
      rw [hl, List.length_cons, Nat.add_right_cancel_iff] at ih
      simp [lines, hc, hl, ih]

/-- A character at the end of a text is added to one of its lines. -/
lemma forall₂_lines_concat {c : Char} (hc : c ≠ '\n') (as : List Char) :
    List.Forall₂ (fun l m => m = l ∨ m = l ++ [c]) (lines as) (lines (as ++ [c])) := by
  induction as with
  | nil => simp [lines, hc]
  | cons d as ih =>
    by_cases hd : d = '\n'
    · simpa [lines, hd] using ih
    · obtain ⟨l, ls, hl⟩ := List.exists_cons_of_ne_nil (lines_ne_nil as)
      obtain ⟨m, ms, hm⟩ := List.exists_cons_of_ne_nil (lines_ne_nil (as ++ [c]))
      rw [hl, hm, List.forall₂_cons] at ih
      simpa [lines, hd, hl, hm] using ih

/-- A blank at the end is not seen. -/
lemma strip_concat {c : Char} (hc : Text.isBlank c = true) (l : List Char) :
    Text.strip (l ++ [c]) = Text.strip l := by
  unfold Text.strip Text.stripStart
  rw [List.dropWhile_append]
  split
  · rename_i h
    simp [List.isEmpty_iff.1 h, hc]
  · simp [Text.stripEnd, hc]

lemma read_lines_concat {c : Char} (hc : Text.isBlank c = true) (hn : c ≠ '\n') (as : List Char) :
    (lines (as ++ [c])).map Line.read = (lines as).map Line.read := by
  have hread (l : List Char) : Line.read (l ++ [c]) = Line.read l := by
    rw [Line.read, strip_concat hc, Line.read]
  have h := forall₂_lines_concat hn as
  generalize lines as = ls, lines (as ++ [c]) = ms at h
  induction h with
  | nil => rfl
  | cons h _ ih =>
    obtain rfl | rfl := h
    · rw [List.map_cons, ih, List.map_cons]
    · rw [List.map_cons, ih, List.map_cons, hread]

/-! ## The warnings -/

/-- A warning for a line that many further down. -/
def Warning.later (k : Nat) (w : Warning) : Warning := { w with line := w.line + k }

lemma faults_append (n : Nat) (xs ys : List Line) :
    faults n (xs ++ ys) = faults n xs ++ faults (n + xs.length) ys := by
  induction xs generalizing n with
  | nil => rfl
  | cons x xs ih => cases x <;> simp [faults, ih, Nat.add_assoc, Nat.add_comm 1]

lemma faults_add (n k : Nat) (xs : List Line) :
    faults (n + k) xs = (faults n xs).map (Warning.later k) := by
  induction xs generalizing n with
  | nil => rfl
  | cons x xs ih => cases x <;> simp [faults, Warning.later, Nat.add_right_comm n k 1, ih]

lemma mem_faults {n : Nat} {xs : List Line} {w : Warning} :
    w ∈ faults n xs ↔ ∃ i, xs[i]? = some (.faulty w.fault) ∧ w.line = n + i := by
  induction xs generalizing n with
  | nil => simp [faults]
  | cons x xs ih =>
    have hstep : w ∈ faults n (x :: xs) ↔
        (x = .faulty w.fault ∧ w.line = n) ∨ w ∈ faults (n + 1) xs := by
      obtain ⟨k, f⟩ := w
      cases x <;> simp [faults, and_comm, eq_comm]
    conv_rhs => rw [← Nat.or_exists_add_one]
    simp [hstep, ih, Nat.add_assoc, Nat.add_comm 1]

lemma pairwise_faults (n : Nat) (xs : List Line) :
    (faults n xs).Pairwise (·.line < ·.line) := by
  induction xs generalizing n with
  | nil => simp [faults]
  | cons x xs ih =>
    cases x with
    | faulty f =>
      refine List.pairwise_cons.2 ⟨fun w hw => ?_, ih (n + 1)⟩
      obtain ⟨i, -, hi⟩ := mem_faults.1 hw
      simp only [hi]
      omega
    | silent => exact ih (n + 1)
    | setting s => exact ih (n + 1)

/-! ## Loading a text -/

/-- The setting that a line has. -/
def setting? (line : List Char) : Option Setting :=
  match Line.read line with
  | .setting s => some s
  | _ => none

/-- The settings of a text, in order. -/
def settings (text : String) : List Setting := (lines text.toList).filterMap setting?

/-- A line of a text, with its number counted from one. -/
def Numbered (text : String) (n : Nat) (line : List Char) : Prop :=
  ∃ i, (lines text.toList)[i]? = some line ∧ n = i + 1

/-- What the preferences and the warnings of a text have to be. -/
structure Loaded (text : String) (p : Preferences) (ws : List Warning) : Prop where
  /-- The settings are applied in order. -/
  applied : p = (settings text).foldl set {}
  /-- Each switch is what its last setting says. -/
  switches : ∀ s, p.turned s =
    ((settings text).filterMap (·.turned? s)).getLast?.getD (turned {} s)
  /-- The name of the console is what its last setting says. -/
  sender : p.sender = ((settings text).filterMap Setting.sender?).getLast?.getD "~console"
  /-- The warnings are in the order of their lines, and no line has two. -/
  ordered : ws.Pairwise (·.line < ·.line)
  /-- The lines with a warning are those that are neither blank nor comments nor have a setting. -/
  warned : ∀ n, (∃ w ∈ ws, w.line = n) ↔
    ∃ line, Numbered text n line ∧ ¬ Ignored line ∧ ¬ ∃ s, Says line s
  /-- A warning gives the reason. -/
  reason : ∀ w ∈ ws, ∃ line, Numbered text w.line line ∧ Wrong line w.fault

lemma setting?_eq_some_iff {s : Setting} : setting? line = some s ↔ Says line s := by
  rw [← Line.read_eq_setting_iff, setting?]
  cases Line.read line <;> simp

lemma foldl_apply (ls : List (List Char)) (p : Preferences) :
    (ls.map Line.read).foldl apply p = (ls.filterMap setting?).foldl set p := by
  induction ls generalizing p with
  | nil => rfl
  | cons l ls ih =>
    rw [List.map_cons, List.foldl_cons, ih, List.filterMap_cons, setting?]
    cases Line.read l <;> rfl

lemma mem_load {text : String} {w : Warning} :
    w ∈ (load text).2 ↔ ∃ line, Numbered text w.line line ∧ Wrong line w.fault := by
  simp only [load, read, mem_faults, List.getElem?_map, Option.map_eq_some_iff,
    Line.read_eq_faulty_iff, Numbered, Nat.add_comm 1]
  grind

lemma loaded_load (text : String) : Loaded text (load text).1 (load text).2 := by
  have happlied : (load text).1 = (settings text).foldl set {} := foldl_apply _ _
  refine ⟨happlied, fun s => ?_, ?_, pairwise_faults 1 _, fun n => ⟨?_, ?_⟩,
    fun w hw => mem_load.1 hw⟩
  · rw [happlied, turned_foldl_set]
  · rw [happlied, sender_foldl_set]
  · rintro ⟨w, hw, rfl⟩
    obtain ⟨line, hn, hf⟩ := mem_load.1 hw
    exact ⟨line, hn, exists_wrong_iff.1 ⟨_, hf⟩⟩
  · rintro ⟨line, hn, hwrong⟩
    obtain ⟨f, hf⟩ := exists_wrong_iff.2 hwrong
    exact ⟨⟨n, f⟩, mem_load.2 ⟨line, hn, hf⟩, rfl⟩

/-- A text whose lines say what those of two texts say is loaded like the second on top of the
first. -/
lemma load_of_read {a b c : String} (h : read c = read a ++ read b) :
    load c = ((settings b).foldl set (load a).1,
      (load a).2 ++ (load b).2.map (Warning.later (read a).length)) := by
  simp only [load, h, List.foldl_append, faults_append, faults_add]
  rw [settings, ← foldl_apply, read, read]

lemma read_append {a b eol : String} (h : eol ∈ ["\n", "\r\n"]) :
    read (a ++ eol ++ b) = read a ++ read b := by
  simp only [List.mem_cons, List.not_mem_nil, or_false] at h
  obtain rfl | rfl := h
  · simp [read, lines_append]
  · have hcr := read_lines_concat (c := '\r') (by decide) (by decide) a.toList
    have happ : (a ++ "\r\n" ++ b).toList = (a.toList ++ ['\r']) ++ '\n' :: b.toList := by simp
    rw [read, happ, lines_append, List.map_append, hcr, read, read]

/-- A text is loaded line by line: the last setting of each preference counts, every other line that
is neither blank nor a comment is reported with its number, and what stands behind a line break is
loaded on top of what stands before it. -/
theorem lines_are_independent :
    (∀ line s, setting? line = some s ↔ Says line s) ∧
    (∀ text, Loaded text (load text).1 (load text).2) ∧
    ∀ a b : String, ∀ eol ∈ ["\n", "\r\n"],
      load (a ++ eol ++ b) = ((settings b).foldl set (load a).1,
        (load a).2 ++ (load b).2.map (Warning.later (a.toList.count '\n' + 1))) := by
  refine ⟨fun line s => setting?_eq_some_iff, loaded_load, fun a b eol heol => ?_⟩
  have hlen : (read a).length = a.toList.count '\n' + 1 := by
    rw [read, List.length_map, length_lines]
  rw [load_of_read (read_append heol), hlen]

/-- A switch that is turned off in a first text and on again in a second one, where a line is
wrong. -/
theorem lines_are_independent_turnedOnAgain :
    "\r\n" ∈ ["\n", "\r\n"] ∧
    load ("optimize=off\r\n\n# x" ++ "\r\n" ++ "optimize\noptimize = YES") =
      ({}, [⟨4, .noSetting "optimize"⟩]) := by
  have heol : "\r\n" ∈ ["\n", "\r\n"] := by decide
  refine ⟨heol, ?_⟩
  rw [lines_are_independent.2.2 _ _ _ heol]
  decide +kernel

end CommandScript.Preferences
