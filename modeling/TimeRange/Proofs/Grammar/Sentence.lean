import TimeRange.Expression.Grammar
import TimeRange.Proofs.Calendar.Gregorian

/-!
# Sentences

A sentence is a tree of the grammar of expressions. It says of every optional
part whether it is there, and holds dates and the name of a zone as they are
written, whether they exist or not. Its tokens are its leaves from left to
right, so that tokens derive from the grammar if they are those of a sentence.

The main statements are `Sentence.tokens_injective`, that no tokens have two
trees, and `Sentence.exists_denotes_iff`, that a sentence denotes an expression
exactly when its dates exist and its zone is in the catalogue.
-/

namespace TimeRange

open Calendar

/-! ## Trees and their tokens -/

inductive Word where
  | now
  | latest
  | earliest
  | date (year month day : Nat)
  | dateTime (year month day hour minute : Nat)
  deriving DecidableEq, Repr

inductive WrittenBase where
  | grain (grain : Grain)
  | word (word : Word)
  deriving DecidableEq, Repr

structure WrittenAnchor where
  base : WrittenBase
  move? : Option Grain
  truncation? : Option TimeUnit
  deriving DecidableEq, Repr

structure WrittenViewpoint where
  asOf? : Option WrittenAnchor
  zone? : Option String
  deriving DecidableEq, Repr

/-- An expression as it is written: an anchor, and perhaps an anchor, a rounding and a viewpoint. -/
structure Sentence where
  start : WrittenAnchor
  stop? : Option WrittenAnchor
  rounding? : Option Rounding
  viewpoint? : Option WrittenViewpoint
  deriving DecidableEq, Repr

def Word.token : Word → Token
  | .now => .now
  | .latest => .latest
  | .earliest => .earliest
  | .date year month day => .date year month day
  | .dateTime year month day hour minute => .dateTime year month day hour minute

/-- The tokens of a part that may be missing, after its mark. -/
def Token.leading {Part : Type} (mark : Token) (tokens : Part → List Token) (part? : Option Part) :
    List Token :=
  part?.elim [] fun part => mark :: tokens part

def Grain.tokens (grain : Grain) : List Token :=
  (grain.count?.elim [] fun count => [.number count]) ++ [.unit grain.unit]

def WrittenBase.tokens : WrittenBase → List Token
  | .grain step => step.tokens
  | .word single => [single.token]

def WrittenAnchor.tokens (written : WrittenAnchor) : List Token :=
  written.base.tokens ++ written.move?.elim [] Grain.tokens
    ++ Token.slash.leading (fun unit => [.unit unit]) written.truncation?

def Rounding.tokens : Rounding → List Token
  | .running grain => grain.tokens
  | .complete grain => .pipe :: grain.tokens ++ [.pipe]

def WrittenViewpoint.tokens (written : WrittenViewpoint) : List Token :=
  written.asOf?.elim [] WrittenAnchor.tokens ++ written.zone?.elim [] fun name => [.zone name]

namespace Sentence

def tokens (sentence : Sentence) : List Token :=
  sentence.start.tokens ++ Token.comma.leading WrittenAnchor.tokens sentence.stop?
    ++ Token.colon.leading Rounding.tokens sentence.rounding?
    ++ Token.atSign.leading WrittenViewpoint.tokens sentence.viewpoint?

def zoneName? (sentence : Sentence) : Option String :=
  sentence.viewpoint?.bind WrittenViewpoint.zone?

end Sentence

/-- Tokens derive from the grammar if they are those of a sentence. -/
def Grammatical (tokens : List Token) : Prop :=
  ∃ sentence : Sentence, sentence.tokens = tokens

/-- Tokens are viable if a sentence can begin with them. -/
def Viable (tokens : List Token) : Prop :=
  ∃ more : List Token, Grammatical (tokens ++ more)

/-! ## One tree for some tokens -/

/-- What may follow an anchor: neither a grain nor a slash, which would be taken for a part of it. -/
def EndsAnchor (rest : List (Option Token)) : Prop :=
  Grammar.startsGrain rest = false ∧ Grammar.startsWith .slash rest = false

theorem Grain.startsGrain_tokens (grain : Grain) (rest : List (Option Token)) :
    Grammar.startsGrain (grain.tokens.map some ++ rest) = true := by
  rcases grain with ⟨count?, unit⟩
  cases count? <;> rfl

theorem Word.startsGrain_token (word : Word) (rest : List (Option Token)) :
    Grammar.startsGrain (some word.token :: rest) = false := by
  cases word <;> rfl

theorem Token.startsWith_mark (mark : Token) (rest : List (Option Token)) :
    Grammar.startsWith mark (some mark :: rest) = true :=
  beq_self_eq_true mark

theorem WrittenAnchor.startsAnchor_tokens (written : WrittenAnchor) (rest : List (Option Token)) :
    Grammar.startsAnchor (written.tokens.map some ++ rest) = true := by
  rcases written with ⟨base, move?, truncation?⟩
  cases base with
  | grain step =>
      rcases step with ⟨count?, unit⟩
      cases count? <;> rfl
  | word single => cases single <;> rfl

theorem Word.token_injective {left right : Word} (same : left.token = right.token) :
    left = right := by
  cases left <;> cases right <;> simp_all [Word.token]

theorem Grain.tokens_append_inj {left right : Grain} {rest other : List Token}
    (same : left.tokens ++ rest = right.tokens ++ other) : left = right ∧ rest = other := by
  rcases left with ⟨leftCount?, leftUnit⟩
  rcases right with ⟨rightCount?, rightUnit⟩
  cases leftCount? <;> cases rightCount? <;> simp_all [Grain.tokens]

/--
A part that may be missing is told by the first token, if its presence shows
there and what follows the part does not look like it.
-/
theorem optional_append_inj {Part : Type} (tokens : Part → List Token) {left? right? : Option Part}
    {rest other : List Token} (starts : List (Option Token) → Bool)
    (begins : ∀ part more, starts ((tokens part).map some ++ more) = true)
    (unique : ∀ {left right : Part}, tokens left ++ rest = tokens right ++ other →
      left = right ∧ rest = other)
    (leftEnds : starts (rest.map some) = false) (rightEnds : starts (other.map some) = false)
    (same : left?.elim [] tokens ++ rest = right?.elim [] tokens ++ other) :
    left? = right? ∧ rest = other := by
  have clash {part : Part} {more ending : List Token} (ends : starts (ending.map some) = false)
      (equal : tokens part ++ more = ending) : False := by
    have found := begins part (more.map some)
    rw [← List.map_append, equal, ends] at found
    cases found
  cases left? with
  | none =>
      cases right? with
      | none => exact ⟨rfl, same⟩
      | some right => exact (clash leftEnds same.symm).elim
  | some left =>
      cases right? with
      | none => exact (clash rightEnds same).elim
      | some right =>
          obtain ⟨rfl, ends⟩ := unique same
          exact ⟨rfl, ends⟩

theorem Token.leading_append_inj {Part : Type} {tokens : Part → List Token} {left? right? : Option Part}
    {rest other : List Token} (mark : Token)
    (unique : ∀ {left right : Part}, tokens left ++ rest = tokens right ++ other →
      left = right ∧ rest = other)
    (leftEnds : Grammar.startsWith mark (rest.map some) = false)
    (rightEnds : Grammar.startsWith mark (other.map some) = false)
    (same : mark.leading tokens left? ++ rest = mark.leading tokens right? ++ other) :
    left? = right? ∧ rest = other := by
  refine optional_append_inj (fun part => mark :: tokens part) (Grammar.startsWith mark)
    (fun _ _ => mark.startsWith_mark _) ?_ leftEnds rightEnds same
  intro left right equal
  exact unique (List.cons.inj equal).2

namespace WrittenBase

theorem tokens_append_inj {left right : WrittenBase} {rest other : List Token}
    (same : left.tokens ++ rest = right.tokens ++ other) : left = right ∧ rest = other := by
  have apart {step : Grain} {single : Word} {first second : List Token} :
      step.tokens ++ first ≠ single.token :: second := by
    intro equal
    have starts := step.startsGrain_tokens (first.map some)
    rw [← List.map_append, equal, List.map_cons, single.startsGrain_token] at starts
    cases starts
  cases left with
  | grain leftStep =>
      cases right with
      | grain rightStep =>
          obtain ⟨rfl, ends⟩ : leftStep = rightStep ∧ rest = other := Grain.tokens_append_inj same
          exact ⟨rfl, ends⟩
      | word rightWord => exact (apart same).elim
  | word leftWord =>
      cases right with
      | grain rightStep => exact (apart same.symm).elim
      | word rightWord =>
          obtain ⟨heads, ends⟩ := List.cons.inj same
          exact ⟨congrArg word (Word.token_injective heads), ends⟩

end WrittenBase

namespace WrittenAnchor

theorem tokens_append_inj {left right : WrittenAnchor} {rest other : List Token}
    (leftEnds : EndsAnchor (rest.map some)) (rightEnds : EndsAnchor (other.map some))
    (same : left.tokens ++ rest = right.tokens ++ other) : left = right ∧ rest = other := by
  have noGrain {ending : List Token} (ends : EndsAnchor (ending.map some))
      (truncation? : Option TimeUnit) :
      Grammar.startsGrain
        ((Token.slash.leading (fun unit => [.unit unit]) truncation? ++ ending).map some) = false := by
    cases truncation? with
    | none => exact ends.1
    | some unit => rfl
  rcases left with ⟨leftBase, leftMove?, leftTruncation?⟩
  rcases right with ⟨rightBase, rightMove?, rightTruncation?⟩
  simp only [tokens, List.append_assoc] at same
  obtain ⟨rfl, moves⟩ := WrittenBase.tokens_append_inj same
  obtain ⟨rfl, truncations⟩ := optional_append_inj Grain.tokens Grammar.startsGrain
    Grain.startsGrain_tokens Grain.tokens_append_inj (noGrain leftEnds _) (noGrain rightEnds _) moves
  obtain ⟨rfl, ends⟩ := Token.slash.leading_append_inj (by simp) leftEnds.2 rightEnds.2 truncations
  exact ⟨rfl, ends⟩

end WrittenAnchor

namespace Rounding

theorem tokens_append_inj {left right : Rounding} {rest other : List Token}
    (same : left.tokens ++ rest = right.tokens ++ other) : left = right ∧ rest = other := by
  have apart {step : Grain} {first second : List Token} : step.tokens ++ first ≠ .pipe :: second := by
    rcases step with ⟨count?, unit⟩
    cases count? <;> simp [Grain.tokens]
  cases left with
  | running leftStep =>
      cases right with
      | running rightStep =>
          obtain ⟨rfl, ends⟩ : leftStep = rightStep ∧ rest = other := Grain.tokens_append_inj same
          exact ⟨rfl, ends⟩
      | complete rightStep => exact (apart same).elim
  | complete leftStep =>
      cases right with
      | running rightStep => exact (apart same.symm).elim
      | complete rightStep =>
          simp only [tokens, List.cons_append, List.append_assoc, List.nil_append,
            List.cons.injEq, true_and] at same
          obtain ⟨rfl, ends⟩ := Grain.tokens_append_inj same
          exact ⟨rfl, (List.cons.inj ends).2⟩

end Rounding

namespace WrittenViewpoint

theorem tokens_injective {left right : WrittenViewpoint} (same : left.tokens = right.tokens) :
    left = right := by
  have endsAnchor (zone? : Option String) :
      EndsAnchor ((zone?.elim [] fun name => [Token.zone name]).map some) := by
    cases zone? <;> exact ⟨rfl, rfl⟩
  have noAnchor (zone? : Option String) :
      Grammar.startsAnchor ((zone?.elim [] fun name => [Token.zone name]).map some) = false := by
    cases zone? <;> rfl
  rcases left with ⟨leftAsOf?, leftZone?⟩
  rcases right with ⟨rightAsOf?, rightZone?⟩
  obtain ⟨rfl, zones⟩ := optional_append_inj WrittenAnchor.tokens Grammar.startsAnchor
    WrittenAnchor.startsAnchor_tokens
    (WrittenAnchor.tokens_append_inj (endsAnchor leftZone?) (endsAnchor rightZone?))
    (noAnchor leftZone?) (noAnchor rightZone?) same
  cases leftZone? <;> cases rightZone? <;> simp_all

end WrittenViewpoint

namespace Sentence

variable (stop? : Option WrittenAnchor) (rounding? : Option Rounding)
  (viewpoint? : Option WrittenViewpoint)

def tokensAfterStop : List Token :=
  Token.colon.leading Rounding.tokens rounding?
    ++ Token.atSign.leading WrittenViewpoint.tokens viewpoint?

def tokensAfterStart : List Token :=
  Token.comma.leading WrittenAnchor.tokens stop? ++ tokensAfterStop rounding? viewpoint?

theorem tokens_eq (sentence : Sentence) :
    sentence.tokens = sentence.start.tokens
      ++ tokensAfterStart sentence.stop? sentence.rounding? sentence.viewpoint? := by
  simp only [tokens, tokensAfterStart, tokensAfterStop, List.append_assoc]

theorem endsAnchor_afterStart :
    EndsAnchor ((tokensAfterStart stop? rounding? viewpoint?).map some) := by
  cases stop? <;> cases rounding? <;> cases viewpoint? <;> exact ⟨rfl, rfl⟩

theorem endsAnchor_afterStop : EndsAnchor ((tokensAfterStop rounding? viewpoint?).map some) := by
  cases rounding? <;> cases viewpoint? <;> exact ⟨rfl, rfl⟩

theorem startsWith_comma_afterStop :
    Grammar.startsWith .comma ((tokensAfterStop rounding? viewpoint?).map some) = false := by
  cases rounding? <;> cases viewpoint? <;> rfl

theorem startsWith_colon_viewpoint :
    Grammar.startsWith .colon
      ((Token.atSign.leading WrittenViewpoint.tokens viewpoint?).map some) = false := by
  cases viewpoint? <;> rfl

/-- No tokens have two trees. -/
theorem tokens_injective {left right : Sentence} (same : left.tokens = right.tokens) :
    left = right := by
  rcases left with ⟨leftStart, leftStop?, leftRounding?, leftViewpoint?⟩
  rcases right with ⟨rightStart, rightStop?, rightRounding?, rightViewpoint?⟩
  rw [tokens_eq, tokens_eq] at same
  obtain ⟨rfl, afterStart⟩ := WrittenAnchor.tokens_append_inj
    (endsAnchor_afterStart _ _ _) (endsAnchor_afterStart _ _ _) same
  obtain ⟨rfl, afterStop⟩ := Token.comma.leading_append_inj
    (WrittenAnchor.tokens_append_inj (endsAnchor_afterStop _ _) (endsAnchor_afterStop _ _))
    (startsWith_comma_afterStop _ _) (startsWith_comma_afterStop _ _) afterStart
  obtain ⟨rfl, viewpoints⟩ := Token.colon.leading_append_inj Rounding.tokens_append_inj
    (startsWith_colon_viewpoint _) (startsWith_colon_viewpoint _) afterStop
  cases leftViewpoint? with
  | none =>
      cases rightViewpoint? with
      | none => rfl
      | some right => cases viewpoints
  | some left =>
      cases rightViewpoint? with
      | none => cases viewpoints
      | some right =>
          have equal := WrittenViewpoint.tokens_injective (List.cons.inj viewpoints).2
          rw [equal]

end Sentence

/-! ## What a sentence denotes -/

/-- Whether the date and the clock time that a token names exist, if it names such. -/
def Token.Exists : Token → Prop
  | .date year month day => IsDate year month day
  | .dateTime year month day hour minute => IsDate year month day ∧ hour < 24 ∧ minute < 60
  | _ => True

instance (token : Token) : Decidable token.Exists :=
  match token with
  | .date year month day => inferInstanceAs (Decidable (IsDate year month day))
  | .dateTime year month day hour minute =>
      inferInstanceAs (Decidable (IsDate year month day ∧ hour < 24 ∧ minute < 60))
  | .now | .latest | .earliest | .unit _ | .zone _ | .number _ | .comma | .colon | .atSign
  | .pipe | .slash => isTrue trivial

def Calendar.ClockTime.Shows (clock : ClockTime) (hour minute : Nat) : Prop :=
  hour = clock.hour.val ∧ minute = clock.minute.val

/-- The base that a word denotes. Its numbers are those of a date and of a clock time. -/
inductive Word.Denotes : Word → Base → Prop where
  | now : Denotes .now .now
  | latest : Denotes .latest .latest
  | earliest : Denotes .earliest .earliest
  | date {year month day : Nat} {date : Date} (civil : date.HasCivil year month day) :
      Denotes (.date year month day) (.date date)
  | dateTime {year month day hour minute : Nat} {date : Date} {clock : ClockTime}
      (civil : date.HasCivil year month day) (shows : clock.Shows hour minute) :
      Denotes (.dateTime year month day hour minute) (.dateTime date clock)

inductive WrittenBase.Denotes : WrittenBase → Base → Prop where
  | grain (step : Grain) : Denotes (.grain step) (.grain step)
  | word {single : Word} {base : Base} (denotes : single.Denotes base) :
      Denotes (.word single) base

structure WrittenAnchor.Denotes (written : WrittenAnchor) (anchor : Anchor) : Prop where
  base : written.base.Denotes anchor.base
  move : anchor.move? = written.move?
  truncation : anchor.truncation? = written.truncation?

/-- The viewpoint that a written one denotes. Its zone is that of the catalogue with the name. -/
structure WrittenViewpoint.Denotes (written : WrittenViewpoint) (viewpoint : Viewpoint) : Prop where
  asOf : Option.Rel WrittenAnchor.Denotes written.asOf? viewpoint.asOf?
  zone : Option.Rel (fun name zone => zone ∈ NamedZone.catalogue ∧ zone.name = name)
    written.zone? viewpoint.zone?

def WrittenAnchor.now : WrittenAnchor :=
  ⟨.word .now, none, none⟩

/-- The expression that a sentence denotes, not yet marked. A missing end is the present. -/
structure Sentence.Denotes (sentence : Sentence) (expression : Expression) : Prop where
  start : sentence.start.Denotes expression.start
  stop : (sentence.stop?.getD .now).Denotes expression.stop
  rounding : expression.rounding? = sentence.rounding?
  viewpoint : Option.Rel WrittenViewpoint.Denotes sentence.viewpoint? expression.viewpoint?
  unmarked : expression.grammatical = false

theorem Calendar.ClockTime.Shows.unique {first second : ClockTime} {hour minute : Nat}
    (left : first.Shows hour minute) (right : second.Shows hour minute) : first = second := by
  rcases first with ⟨firstHour, firstMinute⟩
  rcases second with ⟨secondHour, secondMinute⟩
  have hours : firstHour = secondHour := Fin.ext (left.1.symm.trans right.1)
  have minutes : firstMinute = secondMinute := Fin.ext (left.2.symm.trans right.2)
  rw [hours, minutes]

theorem Grain.exists_of_mem {grain : Grain} {token : Token} (member : token ∈ grain.tokens) :
    token.Exists := by
  rcases grain with ⟨count?, unit⟩
  cases count? <;> simp only [tokens, Option.elim, List.nil_append, List.cons_append,
    List.mem_cons, List.not_mem_nil, or_false] at member
  · rw [member]
    trivial
  · rcases member with rfl | rfl <;> trivial

section Relations

variable {Source Target : Type} {relates : Source → Target → Prop}

theorem exists_rel_iff {source? : Option Source} :
    (∃ target?, Option.Rel relates source? target?)
      ↔ ∀ source ∈ source?, ∃ target, relates source target := by
  constructor
  · rintro ⟨target?, related⟩ source rfl
    cases related with
    | some holds => exact ⟨_, holds⟩
  · intro each
    cases source? with
    | none => exact ⟨none, .none⟩
    | some source =>
        obtain ⟨target, holds⟩ := each source rfl
        exact ⟨some target, .some holds⟩

theorem rel_unique (relates : Source → Target → Prop) {source? : Option Source}
    {first? second? : Option Target}
    (unique : ∀ source first second, relates source first → relates source second → first = second)
    (left : Option.Rel relates source? first?) (right : Option.Rel relates source? second?) :
    first? = second? := by
  cases left with
  | none => cases right; rfl
  | some leftHolds =>
      cases right with
      | some rightHolds => rw [unique _ _ _ leftHolds rightHolds]

end Relations

namespace Word

theorem exists_denotes_iff (word : Word) :
    (∃ base, word.Denotes base) ↔ word.token.Exists := by
  cases word with
  | now => exact ⟨fun _ => trivial, fun _ => ⟨_, .now⟩⟩
  | latest => exact ⟨fun _ => trivial, fun _ => ⟨_, .latest⟩⟩
  | earliest => exact ⟨fun _ => trivial, fun _ => ⟨_, .earliest⟩⟩
  | date year month day =>
      refine Iff.trans ?_ exists_hasCivil_iff
      constructor
      · rintro ⟨_, denotes⟩
        cases denotes with
        | date civil => exact ⟨_, civil⟩
      · rintro ⟨date, civil⟩
        exact ⟨_, .date civil⟩
  | dateTime year month day hour minute =>
      constructor
      · rintro ⟨_, denotes⟩
        cases denotes with
        | dateTime civil shows =>
            obtain ⟨rfl, rfl⟩ := shows
            exact ⟨exists_hasCivil_iff.mp ⟨_, civil⟩, Fin.isLt _, Fin.isLt _⟩
      · rintro ⟨isDate, hourFits, minuteFits⟩
        obtain ⟨date, civil⟩ := exists_hasCivil_iff.mpr isDate
        have shows : ClockTime.Shows ⟨⟨hour, hourFits⟩, ⟨minute, minuteFits⟩⟩ hour minute := ⟨rfl, rfl⟩
        exact ⟨_, .dateTime civil shows⟩

theorem Denotes.unique {word : Word} {first second : Base} (left : word.Denotes first)
    (right : word.Denotes second) : first = second := by
  cases left with
  | now => cases right; rfl
  | latest => cases right; rfl
  | earliest => cases right; rfl
  | date leftCivil =>
      cases right with
      | date rightCivil => rw [leftCivil.unique rightCivil]
  | dateTime leftCivil leftShows =>
      cases right with
      | dateTime rightCivil rightShows =>
          rw [leftCivil.unique rightCivil, leftShows.unique rightShows]

end Word

namespace WrittenBase

theorem exists_denotes_iff (written : WrittenBase) :
    (∃ base, written.Denotes base) ↔ ∀ token ∈ written.tokens, token.Exists := by
  cases written with
  | grain step => exact ⟨fun _ _ member => Grain.exists_of_mem member, fun _ => ⟨_, .grain step⟩⟩
  | word single =>
      simp only [tokens, List.mem_singleton, forall_eq]
      rw [← single.exists_denotes_iff]
      constructor
      · rintro ⟨_, denotes⟩
        cases denotes with
        | word found => exact ⟨_, found⟩
      · rintro ⟨_, found⟩
        exact ⟨_, .word found⟩

theorem Denotes.unique {written : WrittenBase} {first second : Base} (left : written.Denotes first)
    (right : written.Denotes second) : first = second := by
  cases left with
  | grain step => cases right; rfl
  | word leftFound =>
      cases right with
      | word rightFound => exact leftFound.unique rightFound

end WrittenBase

namespace WrittenAnchor

/-- Of the tokens of an anchor only those of its base can name a date. -/
theorem forall_exists_iff (written : WrittenAnchor) :
    (∀ token ∈ written.tokens, token.Exists) ↔ ∀ token ∈ written.base.tokens, token.Exists := by
  have moves : ∀ token ∈ written.move?.elim [] Grain.tokens, token.Exists := by
    cases written.move? with
    | none => exact fun _ member => nomatch member
    | some step => exact fun _ member => Grain.exists_of_mem member
  have truncations : ∀ token ∈ Token.slash.leading (fun unit => [.unit unit]) written.truncation?,
      token.Exists := by
    cases written.truncation? with
    | none => exact fun _ member => nomatch member
    | some unit => simp [Token.leading, Token.Exists]
  simp only [tokens, List.forall_mem_append]
  exact ⟨fun each => each.1.1, fun each => ⟨⟨each, moves⟩, truncations⟩⟩

theorem exists_denotes_iff (written : WrittenAnchor) :
    (∃ anchor, written.Denotes anchor) ↔ ∀ token ∈ written.tokens, token.Exists := by
  rw [forall_exists_iff, ← WrittenBase.exists_denotes_iff]
  constructor
  · rintro ⟨_, denotes⟩
    exact ⟨_, denotes.base⟩
  · rintro ⟨base, denotes⟩
    exact ⟨⟨base, written.move?, written.truncation?⟩, denotes, rfl, rfl⟩

theorem Denotes.unique {written : WrittenAnchor} {first second : Anchor}
    (left : written.Denotes first) (right : written.Denotes second) : first = second := by
  rcases first with ⟨firstBase, firstMove?, firstTruncation?⟩
  rcases second with ⟨secondBase, secondMove?, secondTruncation?⟩
  obtain ⟨leftBase, rfl, rfl⟩ := left
  obtain ⟨rightBase, rfl, rfl⟩ := right
  have bases : firstBase = secondBase := leftBase.unique rightBase
  rw [bases]

end WrittenAnchor

theorem Rounding.exists_of_mem {rounding : Rounding} {token : Token}
    (member : token ∈ rounding.tokens) : token.Exists := by
  cases rounding with
  | running step => exact Grain.exists_of_mem member
  | complete step =>
      simp only [tokens, List.cons_append, List.mem_cons, List.mem_append, List.not_mem_nil,
        or_false] at member
      rcases member with rfl | inside | rfl
      · trivial
      · exact Grain.exists_of_mem inside
      · trivial

namespace WrittenViewpoint

theorem forall_exists_iff (written : WrittenViewpoint) :
    (∀ token ∈ written.tokens, token.Exists)
      ↔ ∀ asOf ∈ written.asOf?, ∀ token ∈ asOf.tokens, token.Exists := by
  have zones : ∀ token ∈ written.zone?.elim [] (fun name => [Token.zone name]), token.Exists := by
    cases written.zone? with
    | none => exact fun _ member => nomatch member
    | some name => simp [Token.Exists]
  simp only [tokens, List.forall_mem_append]
  cases written.asOf? with
  | none =>
      exact ⟨(fun _ _ absent => nomatch absent),
        fun _ => ⟨(fun _ member => nomatch member), zones⟩⟩
  | some asOf =>
      constructor
      · rintro ⟨each, _⟩ found same
        cases same
        exact each
      · intro each
        exact ⟨each asOf rfl, zones⟩

theorem exists_denotes_iff (written : WrittenViewpoint) :
    (∃ viewpoint, written.Denotes viewpoint) ↔
      (∀ token ∈ written.tokens, token.Exists)
        ∧ ∀ name ∈ written.zone?, ∃ zone ∈ NamedZone.catalogue, zone.name = name := by
  rw [forall_exists_iff]
  constructor
  · rintro ⟨viewpoint, asOf, zone⟩
    refine ⟨fun anchor named => ?_, exists_rel_iff.mp ⟨_, zone⟩⟩
    exact anchor.exists_denotes_iff.mp (exists_rel_iff.mp ⟨_, asOf⟩ anchor named)
  · rintro ⟨asOfs, zones⟩
    obtain ⟨asOf?, asOf⟩ := exists_rel_iff.mpr fun (anchor : WrittenAnchor) named =>
      anchor.exists_denotes_iff.mpr (asOfs anchor named)
    obtain ⟨zone?, zone⟩ := exists_rel_iff.mpr zones
    exact ⟨⟨asOf?, zone?⟩, asOf, zone⟩

theorem Denotes.unique {written : WrittenViewpoint} {first second : Viewpoint}
    (left : written.Denotes first) (right : written.Denotes second) : first = second := by
  rcases first with ⟨firstAsOf?, firstZone?⟩
  rcases second with ⟨secondAsOf?, secondZone?⟩
  have asOfs : firstAsOf? = secondAsOf? :=
    rel_unique WrittenAnchor.Denotes (fun _ _ _ => WrittenAnchor.Denotes.unique)
      left.asOf right.asOf
  have zones : firstZone? = secondZone? := by
    refine rel_unique _ ?_ left.zone right.zone
    intro name first second ⟨firstListed, firstNamed⟩ ⟨secondListed, secondNamed⟩
    have found := NamedZone.ofName?_eq_some_iff.mpr ⟨firstListed, firstNamed⟩
    rw [NamedZone.ofName?_eq_some_iff.mpr ⟨secondListed, secondNamed⟩] at found
    exact (Option.some.inj found).symm
  rw [asOfs, zones]

end WrittenViewpoint

theorem Token.forall_exists_leading_iff {Part : Type} {tokens : Part → List Token} (mark : Token)
    (exists_ : mark.Exists) {part? : Option Part} :
    (∀ token ∈ mark.leading tokens part?, token.Exists)
      ↔ ∀ part ∈ part?, ∀ token ∈ tokens part, token.Exists := by
  cases part? with
  | none => simp [leading]
  | some part => simp [leading, exists_]

namespace Sentence

theorem forall_exists_iff (sentence : Sentence) :
    (∀ token ∈ sentence.tokens, token.Exists) ↔
      (∀ token ∈ sentence.start.tokens, token.Exists)
        ∧ (∀ stop ∈ sentence.stop?, ∀ token ∈ stop.tokens, token.Exists)
        ∧ ∀ viewpoint ∈ sentence.viewpoint?, ∀ token ∈ viewpoint.tokens, token.Exists := by
  simp only [tokens, List.forall_mem_append, Token.comma.forall_exists_leading_iff trivial,
    Token.colon.forall_exists_leading_iff trivial, Token.atSign.forall_exists_leading_iff trivial]
  constructor
  · rintro ⟨⟨⟨start, stop⟩, _⟩, viewpoint⟩
    exact ⟨start, stop, viewpoint⟩
  · rintro ⟨start, stop, viewpoint⟩
    exact ⟨⟨⟨start, stop⟩, fun _ _ _ member => Rounding.exists_of_mem member⟩, viewpoint⟩

/-- A sentence denotes an expression exactly when its dates exist and its zone is in the catalogue. -/
theorem exists_denotes_iff (sentence : Sentence) :
    (∃ expression, sentence.Denotes expression) ↔
      (∀ token ∈ sentence.tokens, token.Exists)
        ∧ ∀ name ∈ sentence.zoneName?, ∃ zone ∈ NamedZone.catalogue, zone.name = name := by
  rw [forall_exists_iff]
  constructor
  · rintro ⟨expression, start, stop, _, viewpoint, _⟩
    have each := exists_rel_iff.mp ⟨_, viewpoint⟩
    refine ⟨⟨sentence.start.exists_denotes_iff.mp ⟨_, start⟩, ?_, ?_⟩, ?_⟩
    · intro written found
      rw [Option.mem_def.mp found] at stop
      exact written.exists_denotes_iff.mp ⟨_, stop⟩
    · intro written found
      exact (written.exists_denotes_iff.mp (each written found)).1
    · intro name named
      obtain ⟨written, found, named⟩ := Option.bind_eq_some_iff.mp named
      exact (written.exists_denotes_iff.mp (each written found)).2 name named
  · rintro ⟨⟨starts, stops, viewpoints⟩, zones⟩
    obtain ⟨start, startDenotes⟩ := sentence.start.exists_denotes_iff.mpr starts
    obtain ⟨stop, stopDenotes⟩ : ∃ stop, (sentence.stop?.getD .now).Denotes stop := by
      cases given : sentence.stop? with
      | none => exact ⟨.now, .word .now, rfl, rfl⟩
      | some written => exact written.exists_denotes_iff.mpr (stops written given)
    obtain ⟨viewpoint?, viewpointDenotes⟩ :
        ∃ viewpoint?, Option.Rel WrittenViewpoint.Denotes sentence.viewpoint? viewpoint? := by
      refine exists_rel_iff.mpr fun written found => written.exists_denotes_iff.mpr ?_
      refine ⟨viewpoints written found, fun name named => zones name ?_⟩
      exact Option.bind_eq_some_iff.mpr ⟨written, found, named⟩
    exact ⟨⟨start, stop, sentence.rounding?, viewpoint?, false⟩,
      startDenotes, stopDenotes, rfl, viewpointDenotes, rfl⟩

theorem Denotes.unique {sentence : Sentence} {first second : Expression}
    (left : sentence.Denotes first) (right : sentence.Denotes second) : first = second := by
  rcases first with ⟨firstStart, firstStop, firstRounding?, firstViewpoint?, firstGrammatical⟩
  rcases second with ⟨secondStart, secondStop, secondRounding?, secondViewpoint?, secondGrammatical⟩
  obtain ⟨leftStart, leftStop, rfl, leftViewpoint, rfl⟩ := left
  obtain ⟨rightStart, rightStop, rfl, rightViewpoint, rfl⟩ := right
  have starts : firstStart = secondStart := leftStart.unique rightStart
  have stops : firstStop = secondStop := leftStop.unique rightStop
  have viewpoints : firstViewpoint? = secondViewpoint? :=
    rel_unique WrittenViewpoint.Denotes (fun _ _ _ => WrittenViewpoint.Denotes.unique)
      leftViewpoint rightViewpoint
  rw [starts, stops, viewpoints]

end Sentence

end TimeRange
