import CommandScript.Arguments
import Mathlib.Tactic.Lemma

/-!
# The forms of a command line

A command line can be written in several ways. Options may share one dash or have one each, a value
may follow its option in the same argument or in the next one, and a double dash ends the options.
Behind any beginning that is a command line on its own, these forms say the same: they are read with
the same result, or refused with the same message.

What stands behind a beginning is read on top of it only if the beginning has no double dash as an
argument of its own. A double dash that is the value of an option does not count.

## Main definitions

* `CommandScript.Arguments.own` — the arguments that are not values of options before them.

## Main results

* `CommandScript.Arguments.parseFrom_append` — a command line is read part by part.
* `CommandScript.Arguments.forms_are_interchangeable` — the forms of a command line say the same.
-/

namespace CommandScript.Arguments

/-! ## The arguments that stand for themselves -/

/-- Whether letters are switches and at last an option that has no value yet. -/
def pending : List Char → Bool
  | [] => false
  | [c] => (Flag.ofLetter? c).isSome
  | c :: cs => (Switch.ofLetter? c).isSome && pending cs

/-- Whether the next argument is the value of an option of this one. -/
def awaitsValue (word : String) : Bool := (options? word).any pending

/-- The arguments that are not values of options before them. -/
def own : List String → List String
  | [] => []
  | [word] => [word]
  | word :: next :: rest => word :: if awaitsValue word then own rest else own (next :: rest)

lemma own_cons_of_awaits {word : String} (h : awaitsValue word = true) (value : String)
    (rest : List String) : own (word :: value :: rest) = word :: own rest := by
  rw [own, if_pos h]

lemma own_cons {word : String} (h : awaitsValue word = false) (rest : List String) :
    own (word :: rest) = word :: own rest := by
  cases rest with
  | nil => rfl
  | cons next rest => rw [own, h, if_neg Bool.false_ne_true]

/-! ## Letters -/

/-- No letter stands for a switch and for an option with a value. -/
lemma Flag.ofLetter?_of_switch {c : Char} {s : Switch} (h : Switch.ofLetter? c = some s) :
    Flag.ofLetter? c = none := by
  unfold Switch.ofLetter? at h
  split at h <;> first | rfl | contradiction

/-- Which option waits for its value does not depend on what was read before. -/
lemma isSome_of_letters {a b : Arguments} {cs : List Char} {f? : Option Flag}
    (h : letters a cs = .ok (b, f?)) : f?.isSome = pending cs := by
  induction cs generalizing a with
  | nil =>
    cases h
    rfl
  | cons c cs ih =>
    rw [letters] at h
    split at h
    case _ s hs =>
      rw [ih h]
      cases cs with
      | nil => simp [pending, Flag.ofLetter?_of_switch hs]
      | cons d ds => simp [pending, hs]
    case _ hs =>
      split at h
      · contradiction
      case _ f hf =>
        cases cs with
        | nil =>
          cases h
          simp [pending, hf]
        | cons d ds =>
          rw [List.isEmpty_cons, if_neg Bool.false_ne_true] at h
          have hnone : f? = none := by
            cases hg : a.give (String.ofList (d :: ds)) f <;> rw [hg] at h <;> cases h
            rfl
          simp [pending, hs, hnone]

/-! ## What one argument does -/

variable {a b : Arguments} {word : String} {cs : List Char}

lemma parseFrom_dashes (a : Arguments) (rest : List String) :
    parseFrom a ("--" :: rest) = .ok { a with positional := a.positional ++ rest } := by
  rw [parseFrom, if_pos rfl]

lemma parseFrom_word (hw : word ≠ "--") (ho : options? word = none) (rest : List String) :
    parseFrom a (word :: rest) = parseFrom (a.pass word) rest := by
  rw [parseFrom, if_neg hw, ho]

lemma parseFrom_options (hw : word ≠ "--") (ho : options? word = some cs)
    (hl : letters a cs = .ok (b, none)) (rest : List String) :
    parseFrom a (word :: rest) = parseFrom b rest := by
  rw [parseFrom.eq_def]
  simp only [if_neg hw, ho, hl]

lemma parseFrom_refused {e : Fault} (hw : word ≠ "--") (ho : options? word = some cs)
    (hl : letters a cs = .error e) (rest : List String) :
    parseFrom a (word :: rest) = .error e := by
  rw [parseFrom.eq_def]
  simp only [if_neg hw, ho, hl]

lemma parseFrom_value {f : Flag} (hw : word ≠ "--") (ho : options? word = some cs)
    (hl : letters a cs = .ok (b, some f)) (value : String) (rest : List String) :
    parseFrom a (word :: value :: rest) = b.give value f >>= (parseFrom · rest) := by
  rw [parseFrom.eq_def]
  simp only [if_neg hw, ho, hl]
  cases b.give value f <;> rfl

/-- What options do depends only on what their letters do. -/
lemma parseFrom_congr {a' : Arguments} {word' : String} {cs' : List Char} (hw : word ≠ "--")
    (hw' : word' ≠ "--") (ho : options? word = some cs) (ho' : options? word' = some cs')
    (hl : letters a cs = letters a' cs') (rest : List String) :
    parseFrom a (word :: rest) = parseFrom a' (word' :: rest) := by
  rw [parseFrom.eq_def, parseFrom.eq_def a']
  simp only [if_neg hw, if_neg hw', ho, ho', hl]

/-! ## Reading part by part -/

/-- What stands behind a command line without a double dash of its own is read on top of it. -/
theorem parseFrom_append {pre : List String} (h : parseFrom a pre = .ok b) (hd : "--" ∉ own pre)
    (suf : List String) : parseFrom a (pre ++ suf) = parseFrom b suf := by
  -- the induction follows the reading, which takes one argument or an argument and its value
  fun_induction parseFrom a pre with
  | case1 a =>
    cases h
    rfl
  | case2 a rest => cases rest <;> simp [own] at hd
  | case3 a word rest hw ho ih =>
    have hrest : "--" ∉ own rest := by
      rw [own_cons (by simp [awaitsValue, ho])] at hd
      exact fun hm => hd (List.mem_cons_of_mem _ hm)
    rw [List.cons_append, parseFrom_word hw ho]
    exact ih h hrest
  | case4 => contradiction
  | case5 a word rest hw cs ho c hl ih =>
    have hrest : "--" ∉ own rest := by
      have hn : awaitsValue word = false := by
        simpa [awaitsValue, ho] using (isSome_of_letters hl).symm
      rw [own_cons hn] at hd
      exact fun hm => hd (List.mem_cons_of_mem _ hm)
    rw [List.cons_append, parseFrom_options hw ho hl]
    exact ih h hrest
  | case6 => contradiction
  | case7 => contradiction
  | case8 a word hw cs ho c f hl value rest d hg ih =>
    have hrest : "--" ∉ own rest := by
      have hs : awaitsValue word = true := by
        simpa [awaitsValue, ho] using (isSome_of_letters hl).symm
      rw [own_cons_of_awaits hs] at hd
      exact fun hm => hd (List.mem_cons_of_mem _ hm)
    rw [List.cons_append, List.cons_append, parseFrom_value hw ho hl, hg]
    exact ih h hrest

/-! ## The forms -/

lemma options?_of_toList {c : Char} (h : word.toList = '-' :: c :: cs) :
    options? word = some (c :: cs) := by
  simp only [options?, h]

lemma ne_dashes_of_toList {c : Char} (h : word.toList = '-' :: c :: cs) (hc : c ≠ '-') :
    word ≠ "--" := by
  rintro rfl
  exact hc (List.cons.inj (List.cons.inj h).2).1.symm

lemma exists_switch {c : Char} (hc : c ∈ ['d', 'D', 'V']) :
    c ≠ '-' ∧ ∃ s, Switch.ofLetter? c = some s := by
  simp only [List.mem_cons, List.not_mem_nil, or_false] at hc
  obtain rfl | rfl | rfl := hc <;> exact ⟨by decide, _, rfl⟩

lemma exists_flag {c : Char} (hc : c ∈ ['c', 'f', 'p']) :
    c ≠ '-' ∧ Switch.ofLetter? c = none ∧ ∃ f, Flag.ofLetter? c = some f := by
  simp only [List.mem_cons, List.not_mem_nil, or_false] at hc
  obtain rfl | rfl | rfl := hc <;> exact ⟨by decide, rfl, _, rfl⟩

/-- A switch may share its dash with the options behind it. -/
lemma parseFrom_switch {c : Char} (hc : c ∈ ['d', 'D', 'V']) {r : String} (hr : r ≠ "")
    (hdash : r.toList.head? ≠ some '-') (suf : List String) :
    parseFrom a (("-" ++ .singleton c ++ r) :: suf) =
      parseFrom a (("-" ++ .singleton c) :: ("-" ++ r) :: suf) := by
  obtain ⟨hc, s, hs⟩ := exists_switch hc
  obtain ⟨d, ds, hr⟩ : ∃ d ds, r.toList = d :: ds :=
    List.exists_cons_of_ne_nil (by simpa using hr)
  have hd : d ≠ '-' := by simpa [hr] using hdash
  have hboth : ("-" ++ .singleton c ++ r).toList = '-' :: c :: d :: ds := by simp [hr]
  have hfirst : ("-" ++ .singleton c).toList = ['-', c] := by simp
  have hsecond : ("-" ++ r).toList = '-' :: d :: ds := by simp [hr]
  have hone : letters a [c] = .ok (a.turnOn s, none) := by simp only [letters, hs]
  calc parseFrom a (("-" ++ .singleton c ++ r) :: suf)
      = parseFrom (a.turnOn s) (("-" ++ r) :: suf) :=
        parseFrom_congr (ne_dashes_of_toList hboth hc) (ne_dashes_of_toList hsecond hd)
          (options?_of_toList hboth) (options?_of_toList hsecond) (by simp only [letters, hs]) suf
    _ = parseFrom a (("-" ++ .singleton c) :: ("-" ++ r) :: suf) :=
        (parseFrom_options (ne_dashes_of_toList hfirst hc) (options?_of_toList hfirst) hone _).symm

/-- A value may stand behind its option or in the next argument. -/
lemma parseFrom_attached {c : Char} (hc : c ∈ ['c', 'f', 'p']) {value : String} (hv : value ≠ "")
    (suf : List String) :
    parseFrom a (("-" ++ .singleton c ++ value) :: suf) =
      parseFrom a (("-" ++ .singleton c) :: value :: suf) := by
  obtain ⟨hc, hs, f, hf⟩ := exists_flag hc
  have hboth : ("-" ++ .singleton c ++ value).toList = '-' :: c :: value.toList := by simp
  have hfirst : ("-" ++ .singleton c).toList = ['-', c] := by simp
  have hempty : value.toList.isEmpty = false := by simpa using hv
  have hone : letters a [c] = .ok (a, some f) := by simp [letters, hs, hf]
  have hall : letters a (c :: value.toList) = (a.give value f).map (·, none) := by
    simp [letters, hs, hf, hempty]
  rw [parseFrom_value (ne_dashes_of_toList hfirst hc) (options?_of_toList hfirst) hone]
  cases hg : a.give value f with
  | error e =>
    rw [hg] at hall
    exact parseFrom_refused (ne_dashes_of_toList hboth hc) (options?_of_toList hboth) hall suf
  | ok b =>
    rw [hg] at hall
    exact parseFrom_options (ne_dashes_of_toList hboth hc) (options?_of_toList hboth) hall suf

/-- The forms of a command line say the same, behind any beginning that is a command line on its own
and has no double dash of its own. -/
theorem forms_are_interchangeable {pre : List String} {a : Arguments} (h : parse pre = .ok a)
    (hd : "--" ∉ own pre) (suf : List String) :
    (∀ c ∈ ['d', 'D', 'V'], ∀ r : String, r ≠ "" → r.toList.head? ≠ some '-' →
      parse (pre ++ ("-" ++ .singleton c ++ r) :: suf) =
        parse (pre ++ ("-" ++ .singleton c) :: ("-" ++ r) :: suf)) ∧
    (∀ c ∈ ['c', 'f', 'p'], ∀ value : String, value ≠ "" →
      parse (pre ++ ("-" ++ .singleton c ++ value) :: suf) =
        parse (pre ++ ("-" ++ .singleton c) :: value :: suf)) ∧
    parse (pre ++ "--" :: suf) = .ok { a with positional := a.positional ++ suf } := by
  simp only [parse, parseFrom_append h hd]
  exact ⟨fun c hc r hr hdash => parseFrom_switch hc hr hdash suf,
    fun c hc value hv => parseFrom_attached hc hv suf, parseFrom_dashes a suf⟩

/-- Behind a script that is a double dash, an option and what is wrong with the next one may share a
dash, a value may be attached, and a double dash ends the options. -/
theorem forms_are_interchangeable_scriptOfDashes :
    parse ["-dc", "--", "one"] =
      .ok { script := .inline "--", debug := true, positional := ["one"] } ∧
    "--" ∉ own ["-dc", "--", "one"] ∧
    parse (["-dc", "--", "one"] ++ "-Vf" :: ["two"]) =
      parse (["-dc", "--", "one"] ++ "-V" :: "-f" :: ["two"]) ∧
    parse (["-dc", "--", "one"] ++ "-p--" :: ["two"]) =
      parse (["-dc", "--", "one"] ++ "-p" :: "--" :: ["two"]) ∧
    parse (["-dc", "--", "one"] ++ "--" :: ["-V", "--"]) =
      .ok { script := .inline "--", debug := true, positional := ["one", "-V", "--"] } := by
  have h : parse ["-dc", "--", "one"] =
      .ok { script := .inline "--", debug := true, positional := ["one"] } := rfl
  have hd : "--" ∉ own ["-dc", "--", "one"] := by decide
  exact ⟨h, hd,
    (forms_are_interchangeable h hd ["two"]).1 'V' (by decide) "f" (by decide) (by decide),
    (forms_are_interchangeable h hd ["two"]).2.1 'p' (by decide) "--" (by decide),
    (forms_are_interchangeable h hd ["-V", "--"]).2.2⟩

end CommandScript.Arguments
