import DeclScope.Language

/-!
# Which argument decides the language

An argument list is read as directives.  What each argument says, alone or together with the next
one, is put down here as a grammar, and every list of arguments can be read in exactly one way.  An
option that takes the next argument takes it whatever it looks like, so an argument that looks like
an option may be the value of another.

Of the explicit directives the last one that is understood decides, wherever the standards stand.
Only if there is none, the last standard that is understood decides; and only if there is none of
these either, the name of the file and then the default.  A directive that is not understood might
as well be absent.
-/

namespace DeclScope

/-- What follows a beginning is what has to be added to it. -/
theorem Text.after?_eq_some_iff {beginning text rest : String} :
    after? beginning text = some rest ↔ text = beginning ++ rest := by
  unfold after?
  constructor
  · intro found
    split at found
    · rename_i starts
      obtain ⟨others, same⟩ := List.isPrefixOf_iff_prefix.mp starts
      have isRest : String.ofList others = rest := by
        simpa [← same] using found
      rw [← isRest, ← String.toList_inj, String.toList_append, String.toList_ofList, same]
    · cases found
  · rintro rfl
    simp

/-- Nothing follows a beginning exactly when the text is not made from it. -/
theorem Text.after?_eq_none_iff {beginning text : String} :
    after? beginning text = none ↔ ∀ rest, text ≠ beginning ++ rest := by
  rw [Option.eq_none_iff_forall_ne_some]
  exact forall_congr' fun rest => not_congr after?_eq_some_iff

namespace LanguageDirective

/-- The argument is an option that takes the next argument as its value. -/
def TakesNext (argument : String) : Prop := argument = "-x" ∨ argument = "--language"

/-- The argument is not about the language. -/
def IsOther (argument : String) : Prop :=
  argument ≠ "--language" ∧ ∀ value,
    argument ≠ "-x" ++ value ∧ argument ≠ "--language=" ++ value ∧ argument ≠ "-std=" ++ value

/-- The arguments, read from left to right, give the directives. -/
inductive Gives : List String → List LanguageDirective → Prop where
  | nothing : Gives [] []
  /-- The value may look like an option; it is not read as one. -/
  | pair {option value : String} {rest : List String} {directives : List LanguageDirective}
      (takesNext : TakesNext option) (behind : Gives rest directives) :
      Gives (option :: value :: rest) (.explicit value :: directives)
  | withoutValue {option : String} (takesNext : TakesNext option) : Gives [option] []
  | long {value : String} {rest : List String} {directives : List LanguageDirective}
      (behind : Gives rest directives) :
      Gives (("--language=" ++ value) :: rest) (.explicit value :: directives)
  | short {value : String} {rest : List String} {directives : List LanguageDirective}
      (nonempty : value ≠ "") (behind : Gives rest directives) :
      Gives (("-x" ++ value) :: rest) (.explicit value :: directives)
  | standard {value : String} {rest : List String} {directives : List LanguageDirective}
      (behind : Gives rest directives) :
      Gives (("-std=" ++ value) :: rest) (.standard value :: directives)
  | other {argument : String} {rest : List String} {directives : List LanguageDirective}
      (isOther : IsOther argument) (behind : Gives rest directives) :
      Gives (argument :: rest) directives

/-- An option takes the next argument as its value. -/
theorem scan_pair {option : String} (takesNext : TakesNext option) (value : String)
    (rest : List String) : scan (option :: value :: rest) = .explicit value :: scan rest := by
  rw [scan]
  exact if_pos takesNext

/-- An option without a next argument says nothing. -/
theorem scan_withoutValue {option : String} (takesNext : TakesNext option) :
    scan [option] = [] := by
  rw [scan]
  exact if_pos takesNext

/-- Any other argument is read by itself. -/
theorem scan_single {argument : String} (single : ¬ TakesNext argument) (rest : List String) :
    scan (argument :: rest) = (ofArgument? argument).toList ++ scan rest := by
  cases rest with
  | nil =>
    have alone : scan [argument] = (ofArgument? argument).toList := by
      rw [scan]
      exact if_neg single
    rw [alone, scan, List.append_nil]
  | cons next others =>
    rw [scan]
    exact if_neg single

/-- An argument with its value behind an equals sign chooses that value. -/
theorem ofArgument?_long (value : String) :
    ¬ TakesNext ("--language=" ++ value) ∧
      ofArgument? ("--language=" ++ value) = some (.explicit value) := by
  constructor
  · rintro (same | same)
    · simpa using congrArg String.toList same
    · simpa using congrArg String.toList same
  · rw [ofArgument?, Text.after?_eq_some_iff.mpr rfl]
    rfl

/-- An argument with its value right behind the letter chooses that value. -/
theorem ofArgument?_short {value : String} (nonempty : value ≠ "") :
    ¬ TakesNext ("-x" ++ value) ∧ ofArgument? ("-x" ++ value) = some (.explicit value) := by
  have notLong : Text.after? "--language=" ("-x" ++ value) = none := by
    rw [Text.after?_eq_none_iff]
    intro rest same
    simpa using congrArg String.toList same
  constructor
  · rintro (same | same)
    · exact nonempty (by simpa using congrArg String.toList same)
    · simpa using congrArg String.toList same
  · rw [ofArgument?, notLong, Text.after?_eq_some_iff.mpr rfl]
    rfl

/-- An argument with the name of a standard says that standard. -/
theorem ofArgument?_standard (value : String) :
    ¬ TakesNext ("-std=" ++ value) ∧
      ofArgument? ("-std=" ++ value) = some (.standard value) := by
  have notLong : Text.after? "--language=" ("-std=" ++ value) = none := by
    rw [Text.after?_eq_none_iff]
    intro rest same
    simpa using congrArg String.toList same
  have notShort : Text.after? "-x" ("-std=" ++ value) = none := by
    rw [Text.after?_eq_none_iff]
    intro rest same
    simpa using congrArg String.toList same
  constructor
  · rintro (same | same)
    · simpa using congrArg String.toList same
    · simpa using congrArg String.toList same
  · rw [ofArgument?, notLong, notShort, Text.after?_eq_some_iff.mpr rfl]
    rfl

/-- An argument that is not about the language takes nothing and says nothing. -/
theorem IsOther.ofArgument?_eq {argument : String} (isOther : IsOther argument) :
    ¬ TakesNext argument ∧ ofArgument? argument = none := by
  obtain ⟨notBare, apart⟩ := isOther
  constructor
  · rintro (rfl | rfl)
    · exact (apart "").1 rfl
    · exact notBare rfl
  · rw [ofArgument?, Text.after?_eq_none_iff.mpr fun value => (apart value).2.1,
      Text.after?_eq_none_iff.mpr fun value => (apart value).1,
      Text.after?_eq_none_iff.mpr fun value => (apart value).2.2]
    rfl

/-- An argument that does not take the next one adds what it says by itself. -/
theorem Gives.single {argument : String} {rest : List String}
    {directives : List LanguageDirective} (single : ¬ TakesNext argument)
    (behind : Gives rest directives) :
    Gives (argument :: rest) ((ofArgument? argument).toList ++ directives) := by
  by_cases isLong : ∃ value, argument = "--language=" ++ value
  · obtain ⟨value, rfl⟩ := isLong
    rw [(ofArgument?_long value).2]
    exact .long behind
  by_cases isShort : ∃ value, argument = "-x" ++ value
  · obtain ⟨value, rfl⟩ := isShort
    have nonempty : value ≠ "" := by
      rintro rfl
      exact single (.inl rfl)
    rw [(ofArgument?_short nonempty).2]
    exact .short nonempty behind
  by_cases isStandard : ∃ value, argument = "-std=" ++ value
  · obtain ⟨value, rfl⟩ := isStandard
    rw [(ofArgument?_standard value).2]
    exact .standard behind
  have isOther : IsOther argument := by
    refine ⟨fun bare => single (.inr bare), fun value => ⟨?_, ?_, ?_⟩⟩
    · exact fun same => isShort ⟨value, same⟩
    · exact fun same => isLong ⟨value, same⟩
    · exact fun same => isStandard ⟨value, same⟩
  rw [isOther.ofArgument?_eq.2]
  exact .other isOther behind

/-- Arguments give the directives that are scanned. -/
theorem gives_scan (arguments : List String) : Gives arguments (scan arguments) := by
  fun_induction scan arguments with
  | case1 => exact .nothing
  | case2 argument takesNext => exact .withoutValue takesNext
  | case3 argument single => simpa using Gives.nothing.single single
  | case4 argument value rest takesNext inductionHypothesis =>
    exact .pair takesNext inductionHypothesis
  | case5 argument value rest single inductionHypothesis =>
    exact inductionHypothesis.single single

/-- Arguments give no other directives than those that are scanned. -/
theorem Gives.eq_scan {arguments : List String} {directives : List LanguageDirective}
    (gives : Gives arguments directives) : directives = scan arguments := by
  induction gives with
  | nothing => rfl
  | pair takesNext _ inductionHypothesis => rw [scan_pair takesNext, inductionHypothesis]
  | withoutValue takesNext => rw [scan_withoutValue takesNext]
  | @long value _ _ _ inductionHypothesis =>
    obtain ⟨single, isRead⟩ := ofArgument?_long value
    rw [scan_single single, isRead, inductionHypothesis]
    rfl
  | short nonempty _ inductionHypothesis =>
    obtain ⟨single, isRead⟩ := ofArgument?_short nonempty
    rw [scan_single single, isRead, inductionHypothesis]
    rfl
  | @standard value _ _ _ inductionHypothesis =>
    obtain ⟨single, isRead⟩ := ofArgument?_standard value
    rw [scan_single single, isRead, inductionHypothesis]
    rfl
  | other isOther _ inductionHypothesis =>
    obtain ⟨single, isRead⟩ := isOther.ofArgument?_eq
    rw [scan_single single, isRead, inductionHypothesis]
    rfl

/-- The language that an explicit directive chooses, if its value is understood. -/
def choice? : LanguageDirective → Option Language
  | explicit value => Language.ofName? value
  | standard _ => none

/-- The language that a standard belongs to, if the directive names one that is understood. -/
def hint? : LanguageDirective → Option Language
  | explicit _ => none
  | standard value => Language.ofStandard? value

/-- The last of the directives that say a language in a given way says this one. -/
def LastSays (reading : LanguageDirective → Option Language) (directives : List LanguageDirective)
    (language : Language) : Prop :=
  ∃ before directive after, directives = before ++ directive :: after ∧
    reading directive = some language ∧ ∀ later ∈ after, reading later = none

/-- What the last of the directives says is the last of what all of them say. -/
theorem lastSays_iff {reading : LanguageDirective → Option Language}
    {directives : List LanguageDirective} {language : Language} :
    LastSays reading directives language ↔
      (directives.filterMap reading).getLast? = some language := by
  rw [List.getLast?_filterMap, List.findSome?_eq_some_iff]
  constructor
  · rintro ⟨before, directive, after, rfl, said, silent⟩
    refine ⟨after.reverse, directive, before.reverse, by simp, said, ?_⟩
    exact fun later listed => silent later (List.mem_reverse.mp listed)
  · rintro ⟨after, directive, before, reversed, said, silent⟩
    refine ⟨before.reverse, directive, after.reverse, ?_, said, ?_⟩
    · simpa using congrArg List.reverse reversed
    · exact fun later listed => silent later (List.mem_reverse.mp listed)

/-- None of the directives says a language in a given way, if there is no last one that does. -/
theorem getLast?_filterMap_eq_none_iff {reading : LanguageDirective → Option Language}
    {directives : List LanguageDirective} :
    (directives.filterMap reading).getLast? = none ↔
      ∀ directive ∈ directives, reading directive = none := by
  rw [List.getLast?_eq_none_iff, List.filterMap_eq_nil_iff]

/-- A directive in front decides only if none of the others does. -/
theorem getLast?_filterMap_cons (reading : LanguageDirective → Option Language)
    (directive : LanguageDirective) (rest : List LanguageDirective) :
    ((directive :: rest).filterMap reading).getLast? =
      (rest.filterMap reading).getLast?.or (reading directive) := by
  cases said : reading directive with
  | none => rw [List.filterMap_cons_none said, Option.or_none]
  | some language => simp [said, List.getLast?_cons]

end LanguageDirective

namespace Language

open LanguageDirective

/-- A directive replaces the choice or the hint that held before it, if it is understood. -/
theorem heed_eq (chosen : Option Language × Option Language) (directive : LanguageDirective) :
    heed chosen directive = (directive.choice?.or chosen.1, directive.hint?.or chosen.2) := by
  cases directive <;> rfl

/-- After some directives the last choice and the last hint among them hold, and those from before
if there are none. -/
theorem foldl_heed (directives : List LanguageDirective)
    (chosen : Option Language × Option Language) :
    directives.foldl heed chosen =
      ((directives.filterMap choice?).getLast?.or chosen.1,
        (directives.filterMap hint?).getLast?.or chosen.2) := by
  induction directives generalizing chosen with
  | nil => rfl
  | cons directive rest inductionHypothesis =>
    rw [List.foldl_cons, inductionHypothesis, heed_eq, getLast?_filterMap_cons,
      getLast?_filterMap_cons, Option.or_assoc, Option.or_assoc]

/-- The language of arguments is the last choice among their directives, or else the last hint. -/
theorem ofArguments?_eq (arguments : List String) :
    ofArguments? arguments = ((scan arguments).filterMap choice?).getLast?.or
      ((scan arguments).filterMap hint?).getLast? := by
  simp only [ofArguments?, foldl_heed, Option.or_none]

/-- A directive that chooses nothing makes no difference, if it hints at nothing either or something
else is chosen. -/
theorem ofArguments?_without {arguments shorter : List String}
    {before after : List LanguageDirective} {directive : LanguageDirective}
    (given : scan arguments = before ++ directive :: after)
    (left : scan shorter = before ++ after) (noChoice : directive.choice? = none)
    (indifferent : directive.hint? = none ∨ ∃ other ∈ scan arguments, other.choice? ≠ none) :
    ofArguments? shorter = ofArguments? arguments := by
  have without {reading : LanguageDirective → Option Language} (silent : reading directive = none) :
      (scan shorter).filterMap reading = (scan arguments).filterMap reading := by
    rw [given, left, List.filterMap_append, List.filterMap_append,
      List.filterMap_cons_none silent]
  rw [ofArguments?_eq, ofArguments?_eq, without noChoice]
  rcases indifferent with noHint | ⟨other, listed, chosen⟩
  · rw [without noHint]
  · cases last : ((scan arguments).filterMap choice?).getLast? with
    | none => exact absurd (getLast?_filterMap_eq_none_iff.mp last other listed) chosen
    | some language => rw [Option.some_or, Option.some_or]

/-- How arguments decide the language.  They can be read as directives in exactly one way.  The last
explicit directive that is understood decides, and if there is none, the last standard that is
understood; the language is open exactly if no directive is understood.  A directive that is not
understood makes no difference, nor does a standard beside an explicit directive that is understood.
The name of the file, and then the default, count only if no directive is understood. -/
theorem arguments_decide (arguments : List String) :
    ∃ directives, Gives arguments directives ∧
      (∀ others, Gives arguments others → others = directives) ∧
      (∀ language, ofArguments? arguments = some language ↔
        LastSays choice? directives language ∨
          (∀ directive ∈ directives, directive.choice? = none) ∧
            LastSays hint? directives language) ∧
      (ofArguments? arguments = none ↔
        ∀ directive ∈ directives, directive.choice? = none ∧ directive.hint? = none) ∧
      (∀ before directive after shorter, directives = before ++ directive :: after →
        Gives shorter (before ++ after) → directive.choice? = none →
        (directive.hint? = none ∨ ∃ other ∈ directives, other.choice? ≠ none) →
        ofArguments? shorter = ofArguments? arguments) ∧
      ∀ filename fallback,
        (∀ language, ofArguments? arguments = some language →
          detect filename arguments fallback = language) ∧
        (ofArguments? arguments = none →
          detect filename arguments fallback = (ofExtension? filename).getD fallback) := by
  refine ⟨scan arguments, gives_scan arguments, fun others gives => gives.eq_scan, ?_, ?_, ?_, ?_⟩
  · intro language
    rw [ofArguments?_eq, Option.or_eq_some_iff, lastSays_iff, lastSays_iff,
      getLast?_filterMap_eq_none_iff]
  · rw [ofArguments?_eq, Option.or_eq_none_iff, getLast?_filterMap_eq_none_iff,
      getLast?_filterMap_eq_none_iff]
    constructor
    · rintro ⟨choices, hints⟩ directive listed
      exact ⟨choices directive listed, hints directive listed⟩
    · intro silent
      exact ⟨fun directive listed => (silent directive listed).1,
        fun directive listed => (silent directive listed).2⟩
  · intro before directive after shorter given gives noChoice indifferent
    exact ofArguments?_without given gives.eq_scan.symm noChoice indifferent
  · intro filename fallback
    constructor
    · intro language decided
      rw [detect, decided]
      rfl
    · intro isOpen
      rw [detect, isOpen]
      rfl

/-- Arguments that choose a language early.  Behind the choice stand a standard, a value that only
looks like one, a language that nobody knows, and an option without a value. -/
def earlyChoice : List String :=
  ["-x", "c++", "-std=c99", "--language", "-std=c17", "-xrust", "-x"]

/-- A language that is chosen early stays chosen, and without the standard behind it the arguments
say the same. -/
theorem arguments_decide_early :
    Gives earlyChoice
      [.explicit "c++", .standard "c99", .explicit "-std=c17", .explicit "rust"] ∧
    ofArguments? earlyChoice = some .cpp ∧
    detect "a.c" earlyChoice .c = .cpp ∧
    ofArguments? ["-x", "c++", "--language", "-std=c17", "-xrust", "-x"] = some .cpp := by
  have scanned : scan earlyChoice =
      [.explicit "c++", .standard "c99", .explicit "-std=c17", .explicit "rust"] := by
    decide +kernel
  have scannedShorter : scan ["-x", "c++", "--language", "-std=c17", "-xrust", "-x"] =
      [.explicit "c++", .explicit "-std=c17", .explicit "rust"] := by decide +kernel
  have given := scanned ▸ gives_scan earlyChoice
  have givenShorter := scannedShorter ▸ gives_scan _
  obtain ⟨directives, -, unique, decided, -, without, detected⟩ := arguments_decide earlyChoice
  obtain rfl := unique _ given
  have chosen := (decided .cpp).mpr (.inl ⟨[], .explicit "c++", _, rfl, by decide +kernel,
    by decide +kernel⟩)
  refine ⟨given, chosen, (detected "a.c" .c).1 .cpp chosen, ?_⟩
  rw [← chosen]
  refine without [.explicit "c++"] (.standard "c99") _ _ rfl givenShorter rfl (.inr ?_)
  exact ⟨.explicit "c++", List.mem_cons_self, by decide +kernel⟩

end Language

end DeclScope
