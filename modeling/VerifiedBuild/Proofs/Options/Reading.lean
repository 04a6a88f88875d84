import VerifiedBuild.Options.Parse
import Mathlib.Data.List.Forall2

/-!
# What a token is read as

Each token belongs to one family, whatever the order in which the families are asked. A command line
is read token by token up to the first one that is refused, or to the mark that ends the options.
-/

namespace VerifiedBuild.Options

/-! ## Names and values -/

theorem splitValue?_valued {name : String} (plain : '=' ∉ name.toList) (value : String) :
    splitValue? (name ++ "=" ++ value) = some (name, value) := by
  have chars : (name ++ "=" ++ value).toList = name.toList ++ '=' :: value.toList := by simp
  have proper : ∀ c ∈ name.toList, decide (c ≠ '=') := by
    intro c inName
    exact decide_eq_true fun same => plain (same ▸ inName)
  rw [splitValue?, chars, List.dropWhile_append_of_pos proper, List.takeWhile_append_of_pos proper]
  simp

theorem splitValue?_plain {token : String} (plain : '=' ∉ token.toList) :
    splitValue? token = none := by
  have proper : ∀ c ∈ token.toList, decide (c ≠ '=') := by
    intro c inToken
    exact decide_eq_true fun same => plain (same ▸ inToken)
  have nothing : token.toList.dropWhile (· ≠ '=') = [] := by
    rw [← List.append_nil token.toList, List.dropWhile_append_of_pos proper, List.dropWhile_nil]
  simp only [splitValue?, nothing]

theorem name_eq_of_valued {name value other text : String} (plain : '=' ∉ name.toList)
    (unmarked : '=' ∉ other.toList) (same : name ++ "=" ++ value = other ++ "=" ++ text) :
    name = other := by
  have split := splitValue?_valued plain value
  rw [same, splitValue?_valued unmarked] at split
  cases split
  rfl

theorem ne_valued_of_plain {token : String} (plain : '=' ∉ token.toList) (name value : String) :
    token ≠ name ++ "=" ++ value := by
  rintro rfl
  simp at plain

theorem plain_or_valued (token : String) :
    '=' ∉ token.toList ∨ ∃ name value, '=' ∉ name.toList ∧ token = name ++ "=" ++ value := by
  by_cases plain : '=' ∈ token.toList
  · obtain ⟨front, back, chars, proper⟩ := List.eq_append_cons_of_mem plain
    refine .inr ⟨String.ofList front, String.ofList back, by simpa using proper, ?_⟩
    exact String.toList_inj.mp (by simp [chars])
  · exact .inl plain

/-! ## Tables -/

theorem find?_listed {α : Type} {name : α → String} {table : List α}
    (distinct : (table.map name).Nodup) {entry : α} (listed : entry ∈ table) :
    table.find? (name · = name entry) = some entry := by
  induction table with
  | nil => cases listed
  | cons first rest ih =>
      obtain ⟨fresh, distinct⟩ := List.nodup_cons.mp distinct
      rcases List.mem_cons.mp listed with rfl | later
      · simp
      · have other : name first ≠ name entry := by
          intro same
          exact fresh (same ▸ List.mem_map_of_mem later)
        rw [List.find?_cons_of_neg (by simpa using other), ih distinct later]

theorem exists_related {α β : Type} {related : α → β → Prop} {first : List α} {second : List β}
    (pairs : List.Forall₂ related first second) {item : α} (listed : item ∈ first) :
    ∃ other ∈ second, related item other := by
  induction pairs with
  | nil => cases listed
  | cons pair _ ih =>
      rcases List.mem_cons.mp listed with rfl | later
      · exact ⟨_, List.mem_cons_self, pair⟩
      · obtain ⟨other, known, pair⟩ := ih later
        exact ⟨other, List.mem_cons_of_mem _ known, pair⟩

theorem nodup_valueOptions : (valueOptions.map (·.name)).Nodup := by
  decide

theorem plain_of_switch {entry : String × Directive} (listed : entry ∈ switches) :
    '=' ∉ entry.1.toList := by
  revert entry
  decide

theorem plain_of_valueOption {option : ValueOption} (listed : option ∈ valueOptions) :
    '=' ∉ option.name.toList := by
  revert option
  decide

/-! ## Tokens without and with an equals sign -/

theorem positional_read_ne (token : String) : Family.positional.read token ≠ .otherFamily := by
  simp only [Family.read]
  split_ifs <;> simp

theorem readMetricsFormat_ne (value : String) : readMetricsFormat value ≠ .otherFamily := by
  rw [readMetricsFormat]
  split_ifs <;> simp

theorem ValueOption.readValue_ne (option : ValueOption) (value : String) :
    option.readValue value ≠ .otherFamily := by
  rw [readValue]
  split
  · simp
  · split <;> simp

theorem readToken_plain {token : String} (plain : '=' ∉ token.toList) :
    readToken token =
      if token = "-h" ∨ token = "--help" then .directive .help
      else if token = "--metrics" then .directive (.metrics .text)
      else match switches.find? (·.1 = token) with
        | some (_, directive) => .directive directive
        | none => if token = "--" then .endOfOptions else Family.positional.read token := by
  have final := positional_read_ne token
  generalize positional : Family.positional.read token = last at final
  simp only [readToken, families, List.map_cons, List.map_nil, positional]
  simp only [Family.read, splitValue?_plain plain]
  generalize switches.find? (·.1 = token) = found
  rcases found with _ | ⟨name, directive⟩
  · split_ifs <;> simp_all
  · split_ifs <;> simp

theorem readToken_valued {name : String} (plain : '=' ∉ name.toList) (value : String) :
    readToken (name ++ "=" ++ value) =
      if name = "--metrics" then readMetricsFormat value
      else match valueOptions.find? (·.name = name) with
        | some option => option.readValue value
        | none => Family.positional.read (name ++ "=" ++ value) := by
  have other : ∀ text : String, '=' ∉ text.toList → name ++ "=" ++ value ≠ text := by
    rintro _ unmarked rfl
    simp at unmarked
  have noSwitch : switches.find? (·.1 = name ++ "=" ++ value) = none := by
    refine List.find?_eq_none.mpr fun entry listed => ?_
    simpa using (other entry.1 (plain_of_switch listed)).symm
  have final := positional_read_ne (name ++ "=" ++ value)
  generalize positional : Family.positional.read (name ++ "=" ++ value) = last at final
  simp only [readToken, families, List.map_cons, List.map_nil, positional]
  simp only [Family.read, splitValue?_valued plain, noSwitch, other "-h" (by decide),
    other "--help" (by decide), other "--metrics" (by decide), other "--" (by decide)]
  by_cases metrics : name = "--metrics"
  · subst metrics
    have known := readMetricsFormat_ne value
    simp [known]
  · cases valueOptions.find? (·.name = name) with
    | none => simp [metrics, final]
    | some option =>
        have known := option.readValue_ne value
        simp [metrics, known]

theorem dashed_of_switch {entry : String × Directive} (listed : entry ∈ switches) :
    entry.1.toList.head? = some '-' := by
  revert entry
  decide

theorem dashed_of_valueOption {option : ValueOption} (listed : option ∈ valueOptions) :
    option.name.toList.head? = some '-' := by
  revert option
  decide

theorem readToken_undashed {token : String} (undashed : token.toList.head? ≠ some '-') :
    readToken token = Family.positional.read token := by
  have other : ∀ text : String, text.toList.head? = some '-' → token ≠ text := by
    rintro _ dashed rfl
    exact undashed dashed
  rcases plain_or_valued token with plain | ⟨name, value, plain, rfl⟩
  · have noSwitch : switches.find? (·.1 = token) = none := by
      refine List.find?_eq_none.mpr fun entry listed => ?_
      simpa using (other entry.1 (dashed_of_switch listed)).symm
    rw [readToken_plain plain, noSwitch]
    simp [other "-h" (by decide), other "--help" (by decide), other "--metrics" (by decide),
      other "--" (by decide)]
  · have otherName : ∀ text : String, text.toList.head? = some '-' → name ≠ text := by
      rintro _ dashed rfl
      apply undashed
      simp [dashed]
    have noOption : valueOptions.find? (·.name = name) = none := by
      refine List.find?_eq_none.mpr fun option listed => ?_
      simpa using (otherName option.name (dashed_of_valueOption listed)).symm
    rw [readToken_valued plain, noOption, if_neg (otherName "--metrics" (by decide))]

theorem readToken_option {option : ValueOption} (listed : option ∈ valueOptions)
    (value : String) : readToken (option.name ++ "=" ++ value) = option.readValue value := by
  have other : option.name ≠ "--metrics" := by
    revert option
    decide
  rw [readToken_valued (plain_of_valueOption listed), if_neg other,
    find?_listed nodup_valueOptions listed]

theorem readToken_format (text : String) :
    readToken ("--metrics" ++ "=" ++ text) = readMetricsFormat text := by
  rw [readToken_valued (by decide), if_pos rfl]

theorem readToken_switch {entry : String × Directive} (listed : entry ∈ switches) :
    readToken entry.1 = .directive entry.2 := by
  revert entry
  decide

/-! ## What a token stands for -/

/-- The directives of tokens. -/
inductive Means : String → Directive → Prop
  | nothing : Means "" .nothing
  | input {token : String} (nonempty : token ≠ "") (undashed : token.toList.head? ≠ some '-') :
      Means token (.input token)
  | help {token : String} (named : token = "-h" ∨ token = "--help") : Means token .help
  | metrics : Means "--metrics" (.metrics .text)
  | format {text : String} {format : ReportFormat}
      (known : text = "json" ∧ format = .json ∨ text = "text" ∧ format = .text) :
      Means ("--metrics" ++ "=" ++ text) (.metrics format)
  | switch {entry : String × Directive} (listed : entry ∈ switches) : Means entry.1 entry.2
  | valued {option : ValueOption} {value : String} {directive : Directive}
      (listed : option ∈ valueOptions) (nonempty : value ≠ "")
      (read : option.read value = some directive) :
      Means (option.name ++ "=" ++ value) directive

/-- The complaints about tokens. -/
inductive Refuses : String → Complaint → Prop
  | format {text : String} (unknown : text ≠ "json" ∧ text ≠ "text") :
      Refuses ("--metrics" ++ "=" ++ text) (.unknownMetricsFormat text)
  | missing {option : ValueOption} (listed : option ∈ valueOptions) :
      Refuses (option.name ++ "=" ++ "") (.missingValue option.name)
  | invalid {option : ValueOption} {value : String} (listed : option ∈ valueOptions)
      (nonempty : value ≠ "") (unread : option.read value = none) :
      Refuses (option.name ++ "=" ++ value) (.invalidValue option.name value option.expected)
  | unknown {token : String} (dashed : token.toList.head? = some '-')
      (noFormat : ∀ text, token ≠ "--metrics" ++ "=" ++ text)
      (noValue : ∀ option ∈ valueOptions, ∀ value, token ≠ option.name ++ "=" ++ value) :
      Refuses token (.unknownOption token)

inductive Reads (token : String) : Reading → Prop
  | directive {directive : Directive} (means : Means token directive) :
      Reads token (.directive directive)
  | endOfOptions (mark : token = "--") : Reads token .endOfOptions
  | refused {complaint : Complaint} (refuses : Refuses token complaint) :
      Reads token (.refused complaint)

theorem reads_positional {token : String} (noFormat : ∀ text, token ≠ "--metrics" ++ "=" ++ text)
    (noValue : ∀ option ∈ valueOptions, ∀ value, token ≠ option.name ++ "=" ++ value) :
    Reads token (Family.positional.read token) := by
  simp only [Family.read]
  split_ifs with dashed empty
  · exact .refused (.unknown dashed noFormat noValue)
  · exact .directive (empty ▸ .nothing)
  · exact .directive (.input empty dashed)

theorem reads_option {option : ValueOption} (listed : option ∈ valueOptions) (value : String) :
    Reads (option.name ++ "=" ++ value) (option.readValue value) := by
  rw [ValueOption.readValue]
  split
  next empty => exact .refused (empty ▸ .missing listed)
  next nonempty =>
    split
    next directive read => exact .directive (.valued listed nonempty read)
    next unread => exact .refused (.invalid listed nonempty unread)

theorem reads_format (text : String) :
    Reads ("--metrics" ++ "=" ++ text) (readMetricsFormat text) := by
  rw [readMetricsFormat]
  split_ifs with json plain
  · exact .directive (.format (.inl ⟨json, rfl⟩))
  · exact .directive (.format (.inr ⟨plain, rfl⟩))
  · exact .refused (.format ⟨json, plain⟩)

/-- What a token is read as is what it stands for. -/
theorem reads_readToken (token : String) : Reads token (readToken token) := by
  rcases plain_or_valued token with plain | ⟨name, value, plain, rfl⟩
  · rw [readToken_plain plain]
    split
    next named => exact .directive (.help named)
    next =>
      split
      next metrics => exact .directive (metrics ▸ .metrics)
      next =>
        split
        next name directive found =>
          have listed := List.mem_of_find?_eq_some found
          have named : name = token := by simpa using List.find?_some found
          exact .directive (named ▸ .switch listed)
        next =>
          split
          next mark => exact .endOfOptions mark
          next =>
            exact reads_positional (ne_valued_of_plain plain _)
              fun option _ => ne_valued_of_plain plain option.name
  · rw [readToken_valued plain]
    split
    next metrics => exact metrics ▸ reads_format value
    next other =>
      split
      next option found =>
        have listed := List.mem_of_find?_eq_some found
        have named : option.name = name := by simpa using List.find?_some found
        exact named ▸ reads_option listed value
      next missing =>
        apply reads_positional
        · intro text same
          exact other (name_eq_of_valued plain (by decide) same)
        · intro option listed text same
          have named := name_eq_of_valued plain (plain_of_valueOption listed) same
          simpa [named] using List.find?_eq_none.mp missing option listed

theorem readToken_eq_directive_iff {token : String} {directive : Directive} :
    readToken token = .directive directive ↔ Means token directive := by
  constructor
  case mp =>
    intro read
    have reads := reads_readToken token
    rw [read] at reads
    cases reads
    assumption
  case mpr =>
    intro means
    cases means with
    | nothing => decide
    | input nonempty undashed => simp [readToken_undashed undashed, Family.read, *]
    | help named => rcases named with rfl | rfl <;> decide
    | metrics => decide
    | format known =>
        rw [readToken_format]
        rcases known with ⟨rfl, rfl⟩ | ⟨rfl, rfl⟩ <;> rfl
    | switch listed => exact readToken_switch listed
    | valued listed nonempty read =>
        simp [readToken_option listed, ValueOption.readValue, nonempty, read]

theorem readToken_mark : readToken "--" = .endOfOptions := by
  decide

theorem ne_mark_of_means {token : String} {directive : Directive}
    (means : Means token directive) : token ≠ "--" := by
  rintro rfl
  have read := readToken_eq_directive_iff.mpr means
  rw [readToken_mark] at read
  cases read

theorem ne_mark_of_refused {token : String} {complaint : Complaint}
    (read : readToken token = .refused complaint) : token ≠ "--" := by
  rintro rfl
  rw [readToken_mark] at read
  cases read

theorem readTokens_directive (options : Options) {token : String} {directive : Directive}
    (means : Means token directive) (rest : List String) :
    readTokens options (token :: rest) = readTokens (options.apply directive) rest := by
  rw [readTokens]
  simp [readToken_eq_directive_iff.mpr means, act]

theorem readTokens_mark (options : Options) (after : List String) :
    readTokens options ("--" :: after) =
      ⟨{ options with inputs := options.inputs ++ after.filter (· ≠ "") }, none⟩ := by
  have gone : after.drop (after.length + 1) = [] := List.drop_eq_nil_of_le (by omega)
  rw [readTokens, readToken_mark]
  simp only [act, gone]
  rw [readTokens]

theorem readTokens_refused (options : Options) {bad : String} {complaint : Complaint}
    (read : readToken bad = .refused complaint) (later : List String) :
    readTokens options (bad :: later) = ⟨options.afterComplaint complaint, some complaint⟩ := by
  rw [readTokens]
  simp [read, act]

theorem readTokens_append {earlier : List String} {directives : List Directive}
    (means : List.Forall₂ Means earlier directives) (options : Options) (rest : List String) :
    readTokens options (earlier ++ rest) = readTokens (directives.foldl apply options) rest := by
  induction means generalizing options with
  | nil => rfl
  | cons first _ ih => rw [List.cons_append, readTokens_directive options first, ih]; rfl

theorem parse_eq_of_split {tokens earlier rest : List String} {directives : List Directive}
    (split : tokens.drop 1 = earlier ++ rest) (means : List.Forall₂ Means earlier directives) :
    parse tokens = readTokens (directives.foldl apply { arguments := tokens.drop 1 }) rest := by
  rw [← readTokens_append means, ← split, parse]

/-- Tokens from which no directive is read. -/
inductive Final : List String → Prop
  | nothing : Final []
  | mark (after : List String) : Final ("--" :: after)
  | refused {bad : String} {complaint : Complaint} (read : readToken bad = .refused complaint)
      (later : List String) : Final (bad :: later)

/-- Tokens stand for directives until there are none left, the mark comes or one is refused. -/
theorem exists_course (tokens : List String) :
    ∃ earlier directives rest, tokens = earlier ++ rest ∧
      List.Forall₂ Means earlier directives ∧ Final rest := by
  induction tokens with
  | nil => exact ⟨[], [], [], rfl, .nil, .nothing⟩
  | cons token tokens ih =>
      cases read : readToken token with
      | directive directive =>
          obtain ⟨earlier, directives, rest, rfl, means, final⟩ := ih
          have first := readToken_eq_directive_iff.mp read
          exact ⟨token :: earlier, directive :: directives, rest, rfl, .cons first means, final⟩
      | endOfOptions =>
          have reads := reads_readToken token
          rw [read] at reads
          cases reads with
          | endOfOptions mark => exact ⟨[], [], _, rfl, .nil, mark ▸ .mark tokens⟩
      | refused complaint => exact ⟨[], [], _, rfl, .nil, .refused read tokens⟩
      | otherFamily =>
          have reads := reads_readToken token
          rw [read] at reads
          cases reads

def beforeMark (tokens : List String) : List String :=
  tokens.takeWhile (· ≠ "--")

def afterMark (tokens : List String) : List String :=
  (tokens.dropWhile (· ≠ "--")).drop 1

@[simp] theorem beforeMark_nil : beforeMark [] = [] :=
  rfl

@[simp] theorem beforeMark_mark (after : List String) : beforeMark ("--" :: after) = [] :=
  rfl

@[simp] theorem afterMark_nil : afterMark [] = [] :=
  rfl

@[simp] theorem afterMark_mark (after : List String) : afterMark ("--" :: after) = after :=
  rfl

theorem ne_mark_of_forall₂ {earlier : List String} {directives : List Directive}
    (means : List.Forall₂ Means earlier directives) {token : String} (among : token ∈ earlier) :
    decide (token ≠ "--") := by
  obtain ⟨_, -, first⟩ := exists_related means among
  exact decide_eq_true (ne_mark_of_means first)

theorem beforeMark_append {earlier : List String} {directives : List Directive}
    (means : List.Forall₂ Means earlier directives) (rest : List String) :
    beforeMark (earlier ++ rest) = earlier ++ beforeMark rest :=
  List.takeWhile_append_of_pos fun _ among => ne_mark_of_forall₂ means among

theorem afterMark_append {earlier : List String} {directives : List Directive}
    (means : List.Forall₂ Means earlier directives) (rest : List String) :
    afterMark (earlier ++ rest) = afterMark rest := by
  rw [afterMark, List.dropWhile_append_of_pos fun _ among => ne_mark_of_forall₂ means among,
    afterMark]

end VerifiedBuild.Options
