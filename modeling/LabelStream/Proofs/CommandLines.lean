import LabelStream.Proofs.Words
import Mathlib.Data.List.Nodup

/-! The language of a subcommand. Its options and its positional word stand in any order, each at most
once, and an option can be spelt in several ways. A subcommand reads exactly the lines of its language,
and takes over what they give. -/
namespace LabelStream.CommandLine

/-! ### Lines -/

/-- The option takes a value, and this one passes its check. -/
def Switch.Passes (s : Switch) (value : String) : Prop :=
  ∃ check, s.check = some check ∧ check value = true

/-- The words by which an option is given: a flag by its name alone, any other with its value in one word
or in two. -/
inductive Spelling (s : Switch) : String → List String → Prop
  | flag (plain : s.check = none) : Spelling s "" ["--" ++ s.name]
  | flagLetter {letter : Char} (short : s.short = some letter) (plain : s.check = none) :
      Spelling s "" [String.ofList ['-', letter]]
  | joined {value : String} (passes : s.Passes value) :
      Spelling s value ["--" ++ s.name ++ "=" ++ value]
  | apart {value : String} (passes : s.Passes value) (bare : Bare value) :
      Spelling s value ["--" ++ s.name, value]
  | letter {letter : Char} {value : String} (short : s.short = some letter) (passes : s.Passes value)
      (bare : Bare value) : Spelling s value [String.ofList ['-', letter], value]
  | letterMarked {letter : Char} {value : String} (short : s.short = some letter)
      (passes : s.Passes value) :
      Spelling s value [String.ofList ('-' :: letter :: '=' :: value.toList)]
  | letterTight {letter : Char} {value : String} (short : s.short = some letter)
      (passes : s.Passes value) (present : value ≠ "") (unmarked : value.toList.head? ≠ some '=') :
      Spelling s value [String.ofList ('-' :: letter :: value.toList)]

/-- A line of words, the options and values that it gives and its positional words. Behind two hyphens
every word is positional. -/
inductive Line (u : Usage) : List String → List (String × String) → List String → Prop
  | nil : Line u [] [] []
  | option {s : Switch} {value : String} {spelling words : List String} {given : List (String × String)}
      {positional : List String} (mem : s ∈ u.switches) (spelt : Spelling s value spelling)
      (rest : Line u words given positional) :
      Line u (spelling ++ words) ((s.name, value) :: given) positional
  | plain {word : String} {words : List String} {given : List (String × String)}
      {positional : List String} (bare : Bare word) (rest : Line u words given positional) :
      Line u (word :: words) given (word :: positional)
  | escaped (words : List String) : Line u ("--" :: words) [] words

/-- One positional word at most, and only where the subcommand takes one. -/
inductive Seated (u : Usage) : Option String → List String → Option String → Prop
  | none (seat : Option String) : Seated u seat [] seat
  | one {check : String → Bool} {word : String} (takes : u.positional = some check)
      (passes : check word = true) : Seated u none [word] (some word)

/-- Names of options can be told apart from each other, from their values and from a call for help. -/
structure Usage.Sound (u : Usage) : Prop where
  names : (u.switches.map Switch.name).Nodup
  letters : ∀ s ∈ u.switches, ∀ t ∈ u.switches, s.short.isSome = true → s.short = t.short →
    s.name = t.name
  spelt : ∀ s ∈ u.switches, s.name ≠ "" ∧ '=' ∉ s.name.toList ∧ s.name ≠ "help" ∧
    s.short ≠ some 'h' ∧ s.short ≠ some '-'

theorem renderUsage_sound : renderUsage.Sound := by
  let looks (s : Switch) : String × Option Char := (s.name, s.short)
  have letters : ∀ s ∈ renderUsage.switches.map looks, ∀ t ∈ renderUsage.switches.map looks,
      s.2.isSome = true → s.2 = t.2 → s.1 = t.1 := by decide
  have spelt : ∀ s ∈ renderUsage.switches.map looks, s.1 ≠ "" ∧ '=' ∉ s.1.toList ∧ s.1 ≠ "help" ∧
      s.2 ≠ some 'h' ∧ s.2 ≠ some '-' := by decide
  exact ⟨by decide,
    fun s hs t ht => letters _ (List.mem_map_of_mem hs) _ (List.mem_map_of_mem ht),
    fun s hs => spelt _ (List.mem_map_of_mem hs)⟩

namespace Usage.Sound

variable {u : Usage} (hu : u.Sound) {s : Switch}

include hu

theorem find_eq {p : Switch → Bool} (mem : s ∈ u.switches) (hp : p s = true)
    (unique : ∀ t ∈ u.switches, p t = true → t.name = s.name) : u.switches.find? p = some s := by
  cases found : u.switches.find? p with
  | none => exact absurd hp (List.find?_eq_none.mp found s mem)
  | some t =>
      have inside := List.mem_of_find?_eq_some found
      rw [List.inj_on_of_nodup_map hu.names inside mem (unique t inside (List.find?_some found))]

theorem find_name (mem : s ∈ u.switches) : u.switches.find? (·.name == s.name) = some s :=
  hu.find_eq mem (beq_self_eq_true s.name) fun _ _ same => beq_iff_eq.mp same

theorem find_letter {letter : Char} (mem : s ∈ u.switches) (short : s.short = some letter) :
    u.switches.find? (·.short == some letter) = some s := by
  refine hu.find_eq mem (beq_iff_eq.mpr short) fun t inside same => ?_
  rw [beq_iff_eq] at same
  exact hu.letters t inside s mem (by rw [same]; rfl) (same.trans short.symm)

end Usage.Sound

/-! ### Reading a line -/

namespace Given

def names (g : Given) : List String := g.values.map Prod.fst

def add (g : Given) (name value : String) : Given := { g with values := (name, value) :: g.values }

@[simp] theorem add_names (g : Given) (name value : String) :
    (g.add name value).names = name :: g.names := rfl

theorem has_iff (g : Given) (name : String) : g.has name = true ↔ name ∈ g.names := by
  rw [has, value?, List.lookup_isSome_iff, names, List.mem_map]
  constructor
  · rintro ⟨p, hp, same⟩
    exact ⟨p, hp, (beq_iff_eq.mp same).symm⟩
  · rintro ⟨p, hp, rfl⟩
    exact ⟨p, hp, beq_self_eq_true _⟩

/-- Of options that are given once each, the value is the one that was given. -/
theorem value?_iff {g : Given} (once : g.names.Nodup) {name value : String} :
    g.value? name = some value ↔ (name, value) ∈ g.values := by
  rw [value?]
  constructor
  · intro found
    obtain ⟨before, behind, hv, _⟩ := List.lookup_eq_some_iff.mp found
    rw [hv]
    exact List.mem_append_right _ List.mem_cons_self
  · intro mem
    obtain ⟨found, hfound⟩ := Option.isSome_iff_exists.mp
      (List.lookup_isSome_iff.mpr ⟨_, mem, beq_self_eq_true name⟩)
    obtain ⟨before, behind, hv, _⟩ := List.lookup_eq_some_iff.mp hfound
    have inside : (name, found) ∈ g.values := hv ▸ List.mem_append_right _ List.mem_cons_self
    have same := List.inj_on_of_nodup_map once inside mem rfl
    rw [hfound, (Prod.mk.inj same).2]

end Given

theorem giveSwitch_ok {g g' : Given} {s : Switch} {value : Option String} :
    giveSwitch g s value = .ok g' ↔ s.name ∉ g.names ∧
      ((s.check = none ∧ value = none ∧ g' = g.add s.name "") ∨
        ∃ v, value = some v ∧ s.Passes v ∧ g' = g.add s.name v) := by
  rw [← g.has_iff]
  constructor
  · intro given
    unfold giveSwitch at given
    split at given
    next => exact absurd given nofun
    next fresh =>
      refine ⟨fresh, ?_⟩
      split at given
      next plain =>
        cases given
        exact .inl ⟨plain, rfl, rfl⟩
      next check v takes =>
        split at given
        next passes =>
          cases given
          exact .inr ⟨v, rfl, ⟨check, takes, passes⟩, rfl⟩
        next => exact absurd given nofun
      next => exact absurd given nofun
  · rintro ⟨fresh, ⟨plain, rfl, rfl⟩ | ⟨v, rfl, ⟨check, takes, passes⟩, rfl⟩⟩
    · simp only [giveSwitch, if_neg fresh, plain]
      rfl
    · simp only [giveSwitch, if_neg fresh, takes, passes, if_true]
      rfl

theorem givePositional_ok {u : Usage} {g g' : Given} {word : String} :
    givePositional u g word = .ok g' ↔
      Seated u g.positional [word] (some word) ∧ g' = { g with positional := some word } := by
  constructor
  · intro given
    unfold givePositional at given
    split at given
    next check takes free =>
      split at given
      next passes =>
        cases given
        rw [free]
        exact ⟨.one takes passes, rfl⟩
      next => exact absurd given nofun
    next => exact absurd given nofun
  · rintro ⟨seated, rfl⟩
    generalize hp : g.positional = seat at seated
    cases seated with
    | one takes passes =>
    simp only [givePositional, takes, hp, passes, if_true]

section

variable {u : Usage} (hu : u.Sound) {g : Given} {s : Switch}

theorem takeSwitch_flag (plain : s.check = none) (fresh : s.name ∉ g.names) :
    takeSwitch g (some s) none = .ok (.given (g.add s.name "")) := by
  have given : giveSwitch g s none = .ok (g.add s.name "") :=
    giveSwitch_ok.mpr ⟨fresh, .inl ⟨plain, rfl, rfl⟩⟩
  simp only [takeSwitch, plain, given]
  rfl

theorem takeSwitch_value {value : String} (passes : s.Passes value) (fresh : s.name ∉ g.names) :
    takeSwitch g (some s) (some value) = .ok (.given (g.add s.name value)) := by
  have given : giveSwitch g s (some value) = .ok (g.add s.name value) :=
    giveSwitch_ok.mpr ⟨fresh, .inr ⟨value, rfl, passes, rfl⟩⟩
  simp only [takeSwitch, given, Option.isNone_some, Bool.and_false]
  rfl

theorem takeSwitch_waiting {value : String} (passes : s.Passes value) :
    takeSwitch g (some s) none = .ok (.waiting s) := by
  obtain ⟨check, takes, _⟩ := passes
  simp only [takeSwitch, takes]
  rfl

include hu

theorem takeArgument_long (mem : s ∈ u.switches) {word : String} {value : Option String}
    (shaped : Shaped word (.long s.name value)) :
    takeArgument u g word = takeSwitch g (some s) value := by
  have other : (s.name == "help") = false := beq_eq_false_iff_ne.mpr (hu.spelt s mem).2.2.1
  simp only [takeArgument, shape_of_shaped shaped, other, Bool.false_and, hu.find_name mem]
  rfl

theorem takeArgument_short (mem : s ∈ u.switches) {word : String} {letter : Char} {value : Option String}
    (short : s.short = some letter) (shaped : Shaped word (.short letter value)) :
    takeArgument u g word = takeSwitch g (some s) value := by
  have other : (letter == 'h') = false := beq_eq_false_iff_ne.mpr fun same =>
    (hu.spelt s mem).2.2.2.1 (same ▸ short)
  simp only [takeArgument, shape_of_shaped shaped, other, hu.find_letter mem short]
  rfl

end

section

variable {u : Usage} {g g' : Given} {word : String}

theorem collect_given (taken : takeArgument u g word = .ok (.given g')) (rest : List String) :
    collect u g (word :: rest) = collect u g' rest := by
  rw [collect, taken]

theorem collect_waiting {s : Switch} {value : String}
    (taken : takeArgument u g word = .ok (.waiting s)) (bare : Bare value) (passes : s.Passes value)
    (fresh : s.name ∉ g.names) (rest : List String) :
    collect u g (word :: value :: rest) = collect u (g.add s.name value) rest := by
  have given : giveSwitch g s (some value) = .ok (g.add s.name value) :=
    giveSwitch_ok.mpr ⟨fresh, .inr ⟨value, rfl, passes, rfl⟩⟩
  rw [collect, taken]
  simp only [isValue_iff.mpr bare, given, if_true]

/-- However an option is spelt, it is taken over. -/
theorem collect_spelling (hu : u.Sound) {s : Switch} (mem : s ∈ u.switches) {value : String}
    {spelling : List String} (spelt : Spelling s value spelling) (fresh : s.name ∉ g.names)
    (rest : List String) :
    collect u g (spelling ++ rest) = collect u (g.add s.name value) rest := by
  obtain ⟨named, unmarked, _, _, hyphen⟩ := hu.spelt s mem
  have one {letter : Char} (short : s.short = some letter) : letter ≠ '-' := fun same =>
    hyphen (same ▸ short)
  cases spelt with
  | flag plain =>
      exact collect_given
        ((takeArgument_long hu mem (.long named unmarked)).trans (takeSwitch_flag plain fresh)) rest
  | flagLetter short plain =>
      exact collect_given
        ((takeArgument_short hu mem short (.short (one short))).trans (takeSwitch_flag plain fresh)) rest
  | joined passes =>
      exact collect_given
        ((takeArgument_long hu mem (.longValue unmarked value)).trans (takeSwitch_value passes fresh)) rest
  | apart passes bare =>
      exact collect_waiting
        ((takeArgument_long hu mem (.long named unmarked)).trans (takeSwitch_waiting passes)) bare passes
        fresh rest
  | letter short passes bare =>
      exact collect_waiting
        ((takeArgument_short hu mem short (.short (one short))).trans (takeSwitch_waiting passes)) bare
        passes fresh rest
  | letterMarked short passes =>
      exact collect_given
        ((takeArgument_short hu mem short (.shortMarked (one short) value)).trans
          (takeSwitch_value passes fresh)) rest
  | letterTight short passes present unmarked =>
      exact collect_given
        ((takeArgument_short hu mem short (.shortTight (one short) present unmarked)).trans
          (takeSwitch_value passes fresh)) rest

end

/-- More options, each given once, and a positional word at most. -/
structure Given.Grows (u : Usage) (g g' : Given) (given : List (String × String))
    (positional : List String) : Prop where
  values : g'.values = given.reverse ++ g.values
  once : (given.map Prod.fst).Nodup
  fresh : ∀ name ∈ given.map Prod.fst, name ∉ g.names
  seated : Seated u g.positional positional g'.positional

namespace Given.Grows

variable {u : Usage} {g g' : Given} {given : List (String × String)} {positional : List String}
variable {name value word : String}

theorem nil_iff : g.Grows u g' [] [] ↔ g = g' := by
  constructor
  · intro h
    rcases g with ⟨values, seat⟩
    rcases g' with ⟨values', seat'⟩
    obtain ⟨rfl, _, _, seated⟩ := h
    cases seated
    rfl
  · rintro rfl
    exact ⟨rfl, List.nodup_nil, nofun, .none _⟩

theorem cons_iff : g.Grows u g' ((name, value) :: given) positional ↔
    name ∉ g.names ∧ (g.add name value).Grows u g' given positional := by
  have reversed : ((name, value) :: given).reverse ++ g.values =
      given.reverse ++ (g.add name value).values := by
    rw [List.reverse_cons, List.append_assoc]
    rfl
  constructor
  · intro h
    have once := List.nodup_cons.mp h.once
    refine ⟨h.fresh _ List.mem_cons_self, reversed ▸ h.values, once.2, fun other mem => ?_, h.seated⟩
    rw [add_names, List.mem_cons, not_or]
    exact ⟨fun same => once.1 (same ▸ mem), h.fresh _ (List.mem_cons_of_mem _ mem)⟩
  · rintro ⟨new, h⟩
    have apart : name ∉ given.map Prod.fst := fun mem => h.fresh name mem List.mem_cons_self
    refine ⟨reversed ▸ h.values, List.nodup_cons.mpr ⟨apart, h.once⟩, ?_, h.seated⟩
    intro other mem
    rcases List.mem_cons.mp mem with rfl | mem
    · exact new
    · exact fun old => h.fresh other mem (List.mem_cons_of_mem _ old)

theorem seat_iff : g.Grows u g' given (word :: positional) ↔
    Seated u g.positional [word] (some word) ∧
      Given.Grows u { g with positional := some word } g' given positional := by
  rcases g with ⟨values, seat⟩
  rcases g' with ⟨values', seat'⟩
  constructor
  · rintro ⟨hv, once, fresh, seated⟩
    cases seated with
    | one takes passes => exact ⟨.one takes passes, hv, once, fresh, .none _⟩
  · rintro ⟨first, hv, once, fresh, seated⟩
    cases seated with
    | none => exact ⟨hv, once, fresh, first⟩

theorem names_eq (h : noneGiven.Grows u g' given positional) :
    g'.names = (given.map Prod.fst).reverse := by
  rw [names, h.values, noneGiven, List.append_nil, List.map_reverse]

theorem has_iff (h : noneGiven.Grows u g' given positional) :
    g'.has name = true ↔ name ∈ given.map Prod.fst := by
  rw [Given.has_iff, h.names_eq, List.mem_reverse]

theorem value?_iff (h : noneGiven.Grows u g' given positional) :
    g'.value? name = some value ↔ (name, value) ∈ given := by
  have once : g'.names.Nodup := by
    rw [h.names_eq]
    exact List.nodup_reverse.mpr h.once
  rw [Given.value?_iff once, h.values, noneGiven, List.append_nil, List.mem_reverse]

end Given.Grows

section

variable {u : Usage} {g g' : Given}

theorem takeArgument_plain {word : String} (bare : Bare word) :
    takeArgument u g word = (givePositional u g word).map .given := by
  simp only [takeArgument, shape_plain bare]

/-- What stands behind two hyphens is positional. -/
theorem foldlM_givePositional (words : List String) :
    words.foldlM (givePositional u) g = .ok g' ↔ g.Grows u g' [] words := by
  induction words generalizing g with
  | nil =>
      rw [Given.Grows.nil_iff]
      exact ⟨Except.ok.inj, congrArg _⟩
  | cons word words ih =>
      rw [Given.Grows.seat_iff, List.foldlM_cons]
      cases hg : givePositional u g word with
      | error e =>
          refine iff_of_false nofun fun h => ?_
          rw [givePositional_ok.mpr ⟨h.1, rfl⟩] at hg
          exact absurd hg nofun
      | ok onward =>
          obtain ⟨seated, rfl⟩ := givePositional_ok.mp hg
          rw [and_iff_right seated]
          exact ih

/-- A line is read as what it gives. -/
theorem collect_line (hu : u.Sound) {words : List String} {given : List (String × String)}
    {positional : List String} (line : Line u words given positional)
    (h : g.Grows u g' given positional) : collect u g words = .ok g' := by
  induction line generalizing g with
  | nil => exact congrArg _ (Given.Grows.nil_iff.mp h)
  | option mem spelt rest ih =>
      obtain ⟨fresh, h⟩ := Given.Grows.cons_iff.mp h
      rw [collect_spelling hu mem spelt fresh]
      exact ih h
  | plain bare rest ih =>
      obtain ⟨seated, h⟩ := Given.Grows.seat_iff.mp h
      rw [collect_given (by rw [takeArgument_plain bare, givePositional_ok.mpr ⟨seated, rfl⟩]; rfl)]
      exact ih h
  | escaped words =>
      have taken : takeArgument u g "--" = .ok .escaped := rfl
      rw [collect, taken]
      exact (foldlM_givePositional words).mpr h

/-- What a word can be taken for: an option, the beginning of one, a positional word or the two hyphens. -/
inductive Takes (u : Usage) (g : Given) (word : String) : Taken → Prop
  | option {s : Switch} {value : String} (mem : s ∈ u.switches) (fresh : s.name ∉ g.names)
      (spelt : Spelling s value [word]) : Takes u g word (.given (g.add s.name value))
  | waiting {s : Switch} (mem : s ∈ u.switches)
      (spelt : ∀ value, s.Passes value → Bare value → Spelling s value [word, value]) :
      Takes u g word (.waiting s)
  | plain {onward : Given} (bare : Bare word) (given : givePositional u g word = .ok onward) :
      Takes u g word (.given onward)
  | escaped (hyphens : word = "--") : Takes u g word .escaped

theorem takeSwitch_takes {word : String} {s : Switch} {value : Option String} {t : Taken}
    (h : takeSwitch g (some s) value = .ok t) (mem : s ∈ u.switches)
    (alone : value = none → s.check = none → Spelling s "" [word])
    (joined : ∀ v, value = some v → s.Passes v → Spelling s v [word])
    (apart : value = none → ∀ v, s.Passes v → Bare v → Spelling s v [word, v]) :
    Takes u g word t := by
  simp only [takeSwitch] at h
  split at h
  next waits =>
    rw [Bool.and_eq_true, Option.isNone_iff_eq_none] at waits
    cases h
    exact .waiting mem (apart waits.2)
  next =>
    cases hg : giveSwitch g s value with
    | error e =>
        rw [hg] at h
        exact absurd h nofun
    | ok onward =>
        rw [hg] at h
        cases h
        obtain ⟨fresh, ⟨plain, hv, rfl⟩ | ⟨v, hv, passes, rfl⟩⟩ := giveSwitch_ok.mp hg
        · exact .option mem fresh (alone hv plain)
        · exact .option mem fresh (joined v hv passes)

theorem takes_long {word name : String} {value : Option String} {t : Taken}
    (h : takeSwitch g (u.switches.find? (·.name == name)) value = .ok t)
    (written : word = "--" ++ name ++ value.elim "" ("=" ++ ·)) : Takes u g word t := by
  rcases found : u.switches.find? (·.name == name) with _ | s
  · rw [found] at h
    exact absurd h nofun
  have same : s.name = name :=
    beq_iff_eq.mp (List.find?_some (p := fun s : Switch => s.name == name) found)
  rw [found] at h
  subst same
  refine takeSwitch_takes h (List.mem_of_find?_eq_some found) ?_ ?_ ?_
  · rintro rfl plain
    rw [written, Option.elim_none, String.append_empty]
    exact .flag plain
  · rintro v rfl passes
    rw [written, Option.elim_some, ← String.append_assoc]
    exact .joined passes
  · rintro rfl v passes bare
    rw [written, Option.elim_none, String.append_empty]
    exact .apart passes bare

theorem takes_short {word : String} {letter : Char} {value : Option String} {t : Taken}
    (h : takeSwitch g (u.switches.find? (·.short == some letter)) value = .ok t)
    (shaped : Shaped word (.short letter value)) : Takes u g word t := by
  rcases found : u.switches.find? (·.short == some letter) with _ | s
  · rw [found] at h
    exact absurd h nofun
  have short : s.short = some letter :=
    beq_iff_eq.mp (List.find?_some (p := fun s : Switch => s.short == some letter) found)
  rw [found] at h
  refine takeSwitch_takes h (List.mem_of_find?_eq_some found) ?_ ?_ ?_
  · rintro rfl plain
    cases shaped with
    | short => exact .flagLetter short plain
  · rintro v rfl passes
    cases shaped with
    | shortMarked => exact .letterMarked short passes
    | shortTight one present unmarked => exact .letterTight short passes present unmarked
  · rintro rfl v passes bare
    cases shaped with
    | short => exact .letter short passes bare

theorem takes_of_takeArgument {word : String} {t : Taken} (h : takeArgument u g word = .ok t) :
    Takes u g word t := by
  have shaped : Shaped word (shape word) := shape_eq_iff.mp rfl
  unfold takeArgument at h
  generalize shape word = form at shaped h
  cases form with
  | escape =>
      cases shaped
      cases h
      exact .escaped rfl
  | plain =>
      cases shaped with
      | plain bare =>
      cases hg : givePositional u g word with
      | error e =>
          rw [hg] at h
          exact absurd h nofun
      | ok onward =>
          rw [hg] at h
          cases h
          exact .plain bare hg
  | long name value =>
      simp only at h
      split at h
      next => exact absurd h nofun
      next =>
        refine takes_long h ?_
        cases shaped with
        | long => exact String.append_empty.symm
        | longValue => exact String.append_assoc
  | short letter value =>
      simp only at h
      split at h
      next => exact absurd h nofun
      next => exact takes_short h shaped

/-- Whatever is taken over was given by a line. -/
theorem line_of_collect {words : List String} (h : collect u g words = .ok g') :
    ∃ given positional, Line u words given positional ∧ g.Grows u g' given positional := by
  fun_induction collect u g words with
  | case1 g =>
      cases h
      exact ⟨[], [], .nil, Given.Grows.nil_iff.mpr rfl⟩
  | case2 => exact absurd h nofun
  | case3 g word words onward taken ih =>
      obtain ⟨given, positional, line, grows⟩ := ih h
      cases takes_of_takeArgument taken with
      | option mem fresh spelt =>
          exact ⟨_, _, .option mem spelt line, Given.Grows.cons_iff.mpr ⟨fresh, grows⟩⟩
      | plain bare taken =>
          obtain ⟨seated, rfl⟩ := givePositional_ok.mp taken
          exact ⟨_, _, .plain bare line, Given.Grows.seat_iff.mpr ⟨seated, grows⟩⟩
  | case4 g word words taken =>
      cases takes_of_takeArgument taken with
      | escaped hyphens =>
          subst hyphens
          exact ⟨[], words, .escaped words, (foldlM_givePositional words).mp h⟩
  | case5 => exact absurd h nofun
  | case6 => exact absurd h nofun
  | case7 g word s taken value words looks onward given ih =>
      obtain ⟨more, positional, line, grows⟩ := ih h
      have bare : Bare value := isValue_iff.mp looks
      cases takes_of_takeArgument taken with
      | waiting mem spelt =>
          obtain ⟨fresh, ⟨_, none, _⟩ | ⟨v, same, passes, rfl⟩⟩ := giveSwitch_ok.mp given
          · exact absurd none nofun
          · cases same
            exact ⟨_, _, .option mem (spelt value passes bare) line,
              Given.Grows.cons_iff.mpr ⟨fresh, grows⟩⟩
  | case8 => exact absurd h nofun

end

end LabelStream.CommandLine
