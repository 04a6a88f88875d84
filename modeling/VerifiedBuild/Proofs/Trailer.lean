import VerifiedBuild.Console
import VerifiedBuild.Proofs.Text.Integer

/-!
# Reading a trailer back

The closing summary of a run tells all ten counters. They are read off the line that begins with the
heading of the results they belong to, each by the label that follows its number. A part that is
left out stands for zero, and so do all parts of a line that is left out.
-/

namespace VerifiedBuild

/-! ## Kinds of result -/

inductive ResultKind where
  | verified
  | errors
  | inconclusive
  | timeouts
  | outOfMemory
deriving DecidableEq, Repr

namespace ResultKind

def all : List ResultKind := [.verified, .errors, .inconclusive, .timeouts, .outOfMemory]

def count (counts : VerdictCounts) : ResultKind → UInt64
  | .verified => counts.verified
  | .errors => counts.errors
  | .inconclusive => counts.inconclusive
  | .timeouts => counts.timeouts
  | .outOfMemory => counts.outOfMemory

/-- What can follow the number of the kind. -/
def labels : ResultKind → List String
  | .verified => [" verified"]
  | .errors => [" error", " errors"]
  | .inconclusive => [" inconclusive", " inconclusives"]
  | .timeouts => [" time out", " time outs"]
  | .outOfMemory => [" out of memory"]

/-- Kinds that a line shows even if there is nothing to count. -/
def isSteady : ResultKind → Bool
  | .verified | .errors => true
  | _ => false

theorem disjoint_labels {label : String} {kind other : ResultKind} (own : label ∈ kind.labels)
    (shared : label ∈ other.labels) : kind = other := by
  revert label
  cases kind <;> cases other <;> decide

end ResultKind

theorem VerdictCounts.eq_iff (a b : VerdictCounts) :
    a = b ↔ ∀ kind : ResultKind, kind.count a = kind.count b := by
  constructor
  case mp =>
    rintro rfl kind
    rfl
  case mpr =>
    intro same
    obtain ⟨verified, errors, inconclusive, timeouts, outOfMemory⟩ := a
    obtain rfl : verified = b.verified := same .verified
    obtain rfl : errors = b.errors := same .errors
    obtain rfl : inconclusive = b.inconclusive := same .inconclusive
    obtain rfl : timeouts = b.timeouts := same .timeouts
    obtain rfl : outOfMemory = b.outOfMemory := same .outOfMemory
    rfl

/-! ## Reading -/

namespace Trailer

def freshHeading : String := "proofc finished with "

def cachedHeading : String := "  cached: "

def afterHeading? (heading : String) (line : List Char) : Option (List Char) :=
  if heading.toList.isPrefixOf line then some (line.drop heading.toList.length) else none

/-- What follows the heading on the line that begins with it. -/
def line? (heading text : String) : Option (List Char) :=
  (text.toList.splitOn '\n').findSome? (afterHeading? heading)

/-- A part of a line, cut into its digits and what follows them. -/
def splitPart (part : List Char) : List Char × List Char :=
  let shown := part.dropWhile (· = ' ')
  (shown.takeWhile Char.isDigit, shown.dropWhile Char.isDigit)

/-- The number of a kind on a line, if one of the parts between the commas has its label. -/
def count? (kind : ResultKind) (line : List Char) : Option Nat :=
  ((line.splitOn ',').map splitPart).findSome? fun (digits, label) =>
    if String.ofList label ∈ kind.labels then Text.natural? digits else none

/-- The number of a kind on the line with the heading; what is absent means zero. -/
def number (heading : String) (kind : ResultKind) (text : String) : Nat :=
  ((line? heading text).bind (count? kind)).getD 0

/-- A text tells all ten counters. A part or a line is left out of it only if there is nothing to
count. -/
structure Tells (text : String) (statistics : Statistics) : Prop where
  fresh : ∀ kind : ResultKind,
    number freshHeading kind text = (kind.count statistics.fresh).toNat
  cached : ∀ kind : ResultKind,
    number cachedHeading kind text = (kind.count statistics.cached).toNat
  freshParts : ∃ line, line? freshHeading text = some line ∧ ∀ kind : ResultKind,
    count? kind line = none ↔ kind.isSteady = false ∧ kind.count statistics.fresh = 0
  cachedParts : ∀ line, line? cachedHeading text = some line → ∀ kind : ResultKind,
    count? kind line = none ↔ kind.isSteady = false ∧ kind.count statistics.cached = 0
  cachedLine : line? cachedHeading text = none ↔
    ∀ kind : ResultKind, kind.count statistics.cached = 0

theorem Tells.unique {text : String} {statistics other : Statistics} (tells : Tells text statistics)
    (also : Tells text other) : other = statistics := by
  obtain ⟨otherFresh, otherCached⟩ := other
  have fresh : otherFresh = statistics.fresh := (VerdictCounts.eq_iff _ _).mpr fun kind =>
    UInt64.toNat_inj.mp ((also.fresh kind).symm.trans (tells.fresh kind))
  have cached : otherCached = statistics.cached := (VerdictCounts.eq_iff _ _).mpr fun kind =>
    UInt64.toNat_inj.mp ((also.cached kind).symm.trans (tells.cached kind))
  rw [fresh, cached]

/-! ## Parts of a line -/

variable {mark : Char} {counts : VerdictCounts} {kind : ResultKind}

def isShown (counts : VerdictCounts) (kind : ResultKind) : Bool :=
  kind.isSteady || kind.count counts ≠ 0

def digits (counts : VerdictCounts) (kind : ResultKind) : List Char :=
  Nat.toDigits 10 (kind.count counts).toNat

def label (counts : VerdictCounts) (kind : ResultKind) : String :=
  if kind.count counts = 1 then kind.labels.headD "" else kind.labels.getLastD ""

def part (counts : VerdictCounts) (kind : ResultKind) : List Char :=
  digits counts kind ++ (label counts kind).toList

theorem label_mem (counts : VerdictCounts) (kind : ResultKind) :
    label counts kind ∈ kind.labels := by
  unfold label
  cases kind <;> split <;> decide

/-- A label begins with a blank and has no other mark in it. -/
theorem toList_label (counts : VerdictCounts) (kind : ResultKind) :
    ∃ word, (label counts kind).toList = ' ' :: word ∧ ',' ∉ word ∧ '\n' ∉ word := by
  have spelled : ∀ label ∈ kind.labels, label.toList.head? = some ' ' ∧
      ',' ∉ label.toList.tail ∧ '\n' ∉ label.toList.tail := by
    cases kind <;> decide
  obtain ⟨blank, comma, newline⟩ := spelled _ (label_mem counts kind)
  obtain ⟨word, whole⟩ := List.head?_eq_some_iff.mp blank
  rw [whole, List.tail_cons] at comma newline
  exact ⟨word, whole, comma, newline⟩

theorem digit_of_mem_digits {char : Char} (member : char ∈ digits counts kind) : char.isDigit :=
  Nat.isDigit_of_mem_toDigits (by decide) (by decide) member

theorem not_mem_part (noDigit : mark.isDigit = false)
    (noLabel : mark ∉ (label counts kind).toList) :
    mark ∉ part counts kind := by
  rw [part, List.mem_append, not_or]
  exact ⟨Text.not_mem_of_all_isDigit (Text.all_isDigit_toDigits _) noDigit, noLabel⟩

theorem comma_not_mem_part (counts : VerdictCounts) (kind : ResultKind) :
    ',' ∉ part counts kind := by
  obtain ⟨word, whole, comma, -⟩ := toList_label counts kind
  refine not_mem_part (by decide) ?_
  simp [whole, comma]

theorem newline_not_mem_part (counts : VerdictCounts) (kind : ResultKind) :
    '\n' ∉ part counts kind := by
  obtain ⟨word, whole, -, newline⟩ := toList_label counts kind
  refine not_mem_part (by decide) ?_
  simp [whole, newline]

theorem natural?_digits (counts : VerdictCounts) (kind : ResultKind) :
    Text.natural? (digits counts kind) = some (kind.count counts).toNat :=
  Text.natural?_eq_some_iff.mpr ⟨Nat.toDigits_ne_nil, Text.all_isDigit_toDigits _,
    Nat.ofDigitChars_toDigits (by decide) (by decide)⟩

theorem splitPart_part (counts : VerdictCounts) (kind : ResultKind) :
    splitPart (part counts kind) = (digits counts kind, (label counts kind).toList) := by
  obtain ⟨word, whole, -, -⟩ := toList_label counts kind
  have nonempty : Nat.toDigits 10 (kind.count counts).toNat ≠ [] := Nat.toDigits_ne_nil
  obtain ⟨first, rest, lead⟩ := List.exists_cons_of_ne_nil nonempty
  have member : first ∈ digits counts kind := by
    rw [digits, lead]
    exact List.mem_cons_self
  have isDigit : first.isDigit := digit_of_mem_digits member
  have solid : first ≠ ' ' := by
    rintro rfl
    cases isDigit
  have kept : (part counts kind).dropWhile (· = ' ') = part counts kind := by
    rw [part, digits, lead, List.cons_append, List.dropWhile_cons_of_neg (by simpa using solid)]
  have all : ∀ char ∈ digits counts kind, char.isDigit := fun _ => digit_of_mem_digits
  rw [splitPart, kept, part, List.takeWhile_append_of_pos all, List.dropWhile_append_of_pos all,
    whole]
  simp

/-! ## Whole lines -/

theorem splitPart_blank (part : List Char) : splitPart (' ' :: part) = splitPart part := by
  rw [splitPart, splitPart, List.dropWhile_cons_of_pos (by decide)]

theorem intercalate_cons {α : Type} (separator first : List α) (rest : List (List α)) :
    separator.intercalate (first :: rest) = first ++ rest.flatMap (separator ++ ·) := by
  induction rest generalizing first with
  | nil => simp [List.intercalate]
  | cons second rest ih =>
      have step : separator.intercalate (first :: second :: rest) =
          first ++ (separator ++ separator.intercalate (second :: rest)) := by
        simp [List.intercalate]
      rw [step, ih, List.flatMap_cons, List.append_assoc]

theorem not_mem_intercalate {separator : List Char} {parts : List (List Char)}
    (outside : mark ∉ separator) (plain : ∀ part ∈ parts, mark ∉ part) :
    mark ∉ separator.intercalate parts := by
  cases parts with
  | nil => simp [List.intercalate]
  | cons first rest =>
      have later : ∀ part ∈ rest, mark ∉ part :=
        fun part member => plain part (List.mem_cons_of_mem _ member)
      rw [intercalate_cons, List.mem_append, List.mem_flatMap, not_or]
      refine ⟨plain first List.mem_cons_self, ?_⟩
      rintro ⟨part, member, inside⟩
      rcases List.mem_append.mp inside with between | within
      · exact outside between
      · exact later part member within

theorem splitOn_joined {first : List Char} {rest : List (List Char)} (plain : ',' ∉ first)
    (alsoPlain : ∀ part ∈ rest, ',' ∉ part) :
    ([',', ' '].intercalate (first :: rest)).splitOn ',' = first :: rest.map (' ' :: ·) := by
  rw [intercalate_cons]
  induction rest generalizing first with
  | nil => simp [List.splitOn_eq_singleton plain]
  | cons second rest ih =>
      have blank : ',' ∉ ' ' :: second := by
        simpa using alsoPlain second List.mem_cons_self
      have later := ih blank fun part member => alsoPlain part (List.mem_cons_of_mem _ member)
      rw [List.flatMap_cons, List.map_cons, ← later]
      exact List.splitOn_append_cons_self_of_not_mem plain _

def shown (counts : VerdictCounts) : List ResultKind :=
  ResultKind.all.filter (isShown counts)

theorem shown_eq (counts : VerdictCounts) : shown counts = .verified :: .errors ::
    [ResultKind.inconclusive, .timeouts, .outOfMemory].filter (isShown counts) :=
  rfl

theorem toList_labelled (counts : VerdictCounts) (kind : ResultKind) :
    (toString (kind.count counts).toNat ++ label counts kind).toList = part counts kind := by
  have digits : (toString (kind.count counts).toNat).toList = digits counts kind := Nat.toList_repr
  rw [String.toList_append, digits, part]

theorem toList_plain (counts : VerdictCounts) (kind : ResultKind) (word : String)
    (named : kind.labels = [word]) :
    (toString (kind.count counts).toNat ++ word).toList = part counts kind := by
  rw [← toList_labelled, label, named]
  split <;> rfl

theorem toList_counted (counts : VerdictCounts) (kind : ResultKind) (noun : String)
    (named : kind.labels = [" " ++ noun, " " ++ noun ++ "s"]) :
    (VerdictCounts.counted (kind.count counts) noun).toList = part counts kind := by
  rw [← toList_labelled, VerdictCounts.counted, label, named]
  split <;> simp

theorem toList_optionalPart (kind : ResultKind) (text : String) (unsteady : kind.isSteady = false)
    (spelled : text.toList = part counts kind) :
    (VerdictCounts.optionalPart (kind.count counts) text).toList =
      (([kind].filter (isShown counts)).map (part counts)).flatMap ([',', ' '] ++ ·) := by
  rw [VerdictCounts.optionalPart]
  split
  next none => simp [isShown, unsteady, none]
  next some => simp [isShown, some, spelled]

theorem toList_describe (counts : VerdictCounts) :
    counts.describe.toList = [',', ' '].intercalate ((shown counts).map (part counts)) := by
  have verified := toList_plain counts .verified " verified" rfl
  have errors := toList_counted counts .errors "error" rfl
  have inconclusive := toList_optionalPart .inconclusive _ rfl
    (toList_counted counts .inconclusive "inconclusive" rfl)
  have timeouts := toList_optionalPart .timeouts _ rfl
    (toList_counted counts .timeouts "time out" rfl)
  have outOfMemory := toList_optionalPart .outOfMemory _ rfl
    (toList_plain counts .outOfMemory " out of memory" rfl)
  have parts : [ResultKind.inconclusive, .timeouts, .outOfMemory].filter (isShown counts) =
      [ResultKind.inconclusive].filter (isShown counts) ++
        ([ResultKind.timeouts].filter (isShown counts) ++
          [ResultKind.outOfMemory].filter (isShown counts)) := by
    rw [← List.filter_append, ← List.filter_append]
    rfl
  have marks : (" verified, " : String) = " verified" ++ ", " := rfl
  rw [shown_eq, List.map_cons, List.map_cons, intercalate_cons, List.flatMap_cons, parts,
    List.map_append, List.map_append, List.flatMap_append, List.flatMap_append, ← verified,
    ← errors, ← inconclusive, ← timeouts, ← outOfMemory, VerdictCounts.describe, marks]
  simp only [String.toList_append, ResultKind.count, List.append_assoc]
  rfl

theorem newline_not_mem_describe (counts : VerdictCounts) : '\n' ∉ counts.describe.toList := by
  rw [toList_describe]
  exact not_mem_intercalate (by decide)
    (List.forall_mem_map.mpr fun kind _ => newline_not_mem_part counts kind)

theorem map_splitPart_describe (counts : VerdictCounts) :
    (counts.describe.toList.splitOn ',').map splitPart =
      (shown counts).map fun kind => (digits counts kind, (label counts kind).toList) := by
  have plain (kinds : List ResultKind) : ∀ text ∈ kinds.map (part counts), ',' ∉ text :=
    List.forall_mem_map.mpr fun kind _ => comma_not_mem_part counts kind
  rw [toList_describe, shown_eq, List.map_cons,
    splitOn_joined (comma_not_mem_part counts _) (plain _)]
  simp [splitPart_blank, splitPart_part, Function.comp_def]

theorem findSome?_single {α β : Type} [DecidableEq α] (item : α) (value : α → β)
    (items : List α) :
    (items.findSome? fun other => if other = item then some (value other) else none) =
      if item ∈ items then some (value item) else none := by
  induction items with
  | nil => rfl
  | cons first rest ih =>
      rw [List.findSome?_cons]
      by_cases same : first = item
      · simp [same]
      · simp [same, ih, Ne.symm same]

theorem count?_describe (counts : VerdictCounts) (kind : ResultKind) :
    count? kind counts.describe.toList =
      if isShown counts kind then some (kind.count counts).toNat else none := by
  -- No two kinds share a label, so at most one part of the line is found.
  have own (other : ResultKind) : label counts other ∈ kind.labels ↔ other = kind := by
    constructor
    · exact ResultKind.disjoint_labels (label_mem counts other)
    · rintro rfl
      exact label_mem counts other
  have listed : kind ∈ ResultKind.all := by cases kind <;> decide
  have present : kind ∈ shown counts ↔ isShown counts kind := by
    rw [shown, List.mem_filter, and_iff_right listed]
  rw [count?, map_splitPart_describe, List.findSome?_map]
  simp only [Function.comp_def, String.ofList_toList, own, natural?_digits]
  rw [findSome?_single kind fun kind => (kind.count counts).toNat]
  simp only [present]

/-! ## Whole texts -/

theorem afterHeading?_append (heading : String) (line : List Char) :
    afterHeading? heading (heading.toList ++ line) = some line := by
  simp [afterHeading?]

theorem trailer_eq_lines (statistics : Statistics) :
    statistics.trailer = "\n" ++ (freshHeading ++ statistics.fresh.describe ++ ("\n" ++
      if statistics.anyCached then cachedHeading ++ statistics.cached.describe ++ ("\n" ++ "")
      else "")) := by
  have opening : "\n" ++ freshHeading = "\nproofc finished with " := by
    simp only [freshHeading]
    rfl
  rw [← String.append_assoc, ← String.append_assoc, ← String.append_assoc, opening,
    String.append_empty]
  exact rfl

theorem lines_trailer (statistics : Statistics) :
    statistics.trailer.toList.splitOn '\n' =
      [] :: (freshHeading.toList ++ statistics.fresh.describe.toList) ::
        if statistics.anyCached then
          [cachedHeading.toList ++ statistics.cached.describe.toList, []]
        else [[]] := by
  have line (heading : String) (plain : '\n' ∉ heading.toList) (counts : VerdictCounts) :
      '\n' ∉ (heading ++ counts.describe).toList := by
    simp [plain, newline_not_mem_describe]
  have next (line text : String) (whole : '\n' ∉ line.toList) :
      (line ++ ("\n" ++ text)).toList.splitOn '\n' = line.toList :: text.toList.splitOn '\n' := by
    have mark : ("\n" ++ text).toList = '\n' :: text.toList := by simp
    rw [String.toList_append, mark]
    exact List.splitOn_append_cons_self_of_not_mem whole _
  have first (text : String) :
      ("\n" ++ text).toList.splitOn '\n' = [] :: text.toList.splitOn '\n' := by
    simpa using next "" text (by simp)
  rw [trailer_eq_lines, first, next _ _ (line freshHeading (by simp [freshHeading]) _),
    String.toList_append]
  split
  · rw [next _ _ (line cachedHeading (by simp [cachedHeading]) _), String.toList_append]
    rfl
  · rfl

theorem line?_fresh (statistics : Statistics) :
    line? freshHeading statistics.trailer = some statistics.fresh.describe.toList := by
  have blank : afterHeading? freshHeading [] = none := rfl
  rw [line?, lines_trailer, List.findSome?_cons, blank]
  dsimp only
  rw [List.findSome?_cons, afterHeading?_append]

theorem line?_cached (statistics : Statistics) :
    line? cachedHeading statistics.trailer =
      if statistics.anyCached then some statistics.cached.describe.toList else none := by
  have blank : afterHeading? cachedHeading [] = none := rfl
  have other (line : List Char) :
      afterHeading? cachedHeading (freshHeading.toList ++ line) = none :=
    rfl
  rw [line?, lines_trailer, List.findSome?_cons, blank]
  dsimp only
  rw [List.findSome?_cons, other]
  dsimp only
  split
  · rw [List.findSome?_cons, afterHeading?_append]
  · rw [List.findSome?_cons, blank]
    rfl

theorem count?_eq_none_iff (counts : VerdictCounts) (kind : ResultKind) :
    count? kind counts.describe.toList = none ↔ kind.isSteady = false ∧ kind.count counts = 0 := by
  rw [count?_describe]
  simp [isShown]

theorem getD_count? (counts : VerdictCounts) (kind : ResultKind) :
    (count? kind counts.describe.toList).getD 0 = (kind.count counts).toNat := by
  cases absent : count? kind counts.describe.toList with
  | none => rw [((count?_eq_none_iff counts kind).mp absent).2, Option.getD_none, UInt64.toNat_zero]
  | some value =>
      rw [count?_describe] at absent
      split at absent
      · exact (Option.some.inj absent).symm
      · cases absent

theorem anyCached_eq_false_iff (statistics : Statistics) : statistics.anyCached = false ↔
    ∀ kind : ResultKind, kind.count statistics.cached = 0 := by
  have none (kind : ResultKind) : kind.count ({} : VerdictCounts) = 0 := by cases kind <;> rfl
  have same := VerdictCounts.eq_iff statistics.cached {}
  simp only [none] at same
  rw [Statistics.anyCached, ← same]
  simp

theorem tells_trailer (statistics : Statistics) : Tells statistics.trailer statistics := by
  constructor
  case fresh =>
    intro kind
    rw [number, line?_fresh, Option.bind_some, getD_count?]
  case cached =>
    intro kind
    rw [number, line?_cached]
    split
    next => rw [Option.bind_some, getD_count?]
    next none =>
      have zero := (anyCached_eq_false_iff statistics).mp (by simpa using none) kind
      rw [zero, Option.bind_none, Option.getD_none, UInt64.toNat_zero]
  case freshParts => exact ⟨_, line?_fresh statistics, count?_eq_none_iff statistics.fresh⟩
  case cachedParts =>
    intro line found kind
    rw [line?_cached] at found
    split at found
    · cases found
      exact count?_eq_none_iff statistics.cached kind
    · cases found
  case cachedLine =>
    rw [line?_cached, ← anyCached_eq_false_iff]
    simp

end Trailer

/-- All ten counters can be read off the trailer that a console shows, and no two statistics have
the same one. -/
theorem trailer_lossless (console : Console) (statistics other : Statistics) :
    (console.perform (.trailer statistics)).transcript =
      console.transcript ++ [⟨.out, statistics.trailer⟩] ∧
    Trailer.Tells statistics.trailer statistics ∧
    (console.perform (.trailer other) = console.perform (.trailer statistics) ↔
      other = statistics) := by
  refine ⟨rfl, Trailer.tells_trailer statistics, ?_⟩
  constructor
  case mp =>
    intro same
    have shown := congrArg Console.transcript same
    have text : other.trailer = statistics.trailer := by
      simpa [Console.perform, Console.write, Console.emit, Console.add] using shown
    exact (Trailer.tells_trailer statistics).unique (text ▸ Trailer.tells_trailer other)
  case mpr =>
    rintro rfl
    rfl

example : Trailer.number Trailer.cachedHeading .timeouts
    "\nproofc finished with 2 verified, 0 errors\n  cached: 0 verified, 1 error, 3 time outs\n" =
      3 := by
  decide +kernel

end VerifiedBuild
