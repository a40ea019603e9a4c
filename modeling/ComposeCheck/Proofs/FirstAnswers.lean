import ComposeCheck.Proofs.Answers

/-!
# The first answer stays

Whoever asks for options asks one memo, one question after the other, and where options are written
may change in between. The first question of a type about an option settles the answer: what was
written at that moment, or the default that came with the question. Every later question of that
type about that option gets the same answer (`Memo.first_answer_stays`).
-/

namespace ComposeCheck

/-- A question about an option, for one of the accessors. -/
inductive Question where
  | int (name : String) (default : Int)
  | text (name default : String)
  | flag (name : String) (default : Bool)
  | list (name : String) (default : List String)
  | set (name : String) (default : List String)

namespace Question

def kind : Question → OptionKind
  | int _ _ => .int
  | text _ _ => .text
  | flag _ _ => .flag
  | list _ _ => .list
  | set _ _ => .set

def name : Question → String
  | int name _ | text name _ | flag name _ | list name _ | set name _ => name

/-- The value that answers the question if nothing of use is written. -/
def default : (q : Question) → q.kind.Value
  | int _ default => default
  | text _ default => default
  | flag _ default => default
  | list _ default => default
  | set _ default => default.eraseDups

/-- Asks the accessor of the question's type. -/
def ask : (q : Question) → OptionM q.kind.Value
  | int name default => Options.int name default
  | text name default => Options.text name default
  | flag name default => Options.flag name default
  | list name default => Options.list name default
  | set name default => Options.set name default

/-- Whether two questions are of one type and about one option. Their defaults may differ. -/
def isLike (p q : Question) : Bool := p.kind = q.kind ∧ p.name = q.name

/-- The answer by what is written now: the raw text as a value of the question's type, or the
default if nothing is written or the text is no such value. -/
def fresh (backend : Backend) (q : Question) : Answer :=
  ⟨q.kind, q.name, ((backend q.name).bind q.kind.read).getD q.default⟩

variable {p q r : Question}

theorem isLike_iff : p.isLike q = true ↔ p.kind = q.kind ∧ p.name = q.name := decide_eq_true_iff

theorem isLike_self (q : Question) : q.isLike q = true := isLike_iff.2 ⟨rfl, rfl⟩

theorem isLike_congr_right (h : q.isLike r = true) : p.isLike q = p.isLike r := by
  obtain ⟨hkind, hname⟩ := isLike_iff.1 h
  simp only [isLike, hkind, hname]

theorem isLike_congr_left (h : p.isLike q = true) : p.isLike r = q.isLike r := by
  obtain ⟨hkind, hname⟩ := isLike_iff.1 h
  simp only [isLike, hkind, hname]

theorem ask_eq_get (q : Question) : q.ask = Options.get q.kind q.name q.default := by
  cases q <;> rfl

/-- Every accessor looks into the memo before it looks at what is written. -/
theorem ask_eq (q : Question) (backend : Backend) (memo : Memo) : q.ask backend memo =
    match memo.find? q.kind q.name with
    | some value => (value, memo)
    | none =>
      ((q.fresh backend).value, memo.keep q.kind q.name (q.fresh backend).value) := by
  rw [ask_eq_get, OptionM.get_eq]
  cases memo.find? q.kind q.name <;> rfl

end Question

/-- Whether an answer has the type and the name of a question. -/
def Answer.answers (answer : Answer) (q : Question) : Bool :=
  answer.kind = q.kind ∧ answer.name = q.name

/-- A question at a moment, with what is written then. -/
abbrev Moment := Backend × Question

namespace Memo

/-- The kept answer to a question. -/
def answer? (memo : Memo) (q : Question) : Option Answer :=
  (memo.find? q.kind q.name).map (Answer.mk q.kind q.name)

/-- Answers questions one after the other; each may find other options written. -/
def respond (memo : Memo) : List Moment → List Answer × Memo
  | [] => ([], memo)
  | (backend, q) :: asked =>
    let (value, kept) := q.ask backend memo
    let (answers, last) := kept.respond asked
    (⟨q.kind, q.name, value⟩ :: answers, last)

/-- The answer that the first question like this one gets if nothing has been asked before. -/
def firstAnswer (asked : List Moment) (moment : Moment) : Answer :=
  let (backend, first) := (asked.find? (·.2.isLike moment.2)).getD moment
  first.fresh backend

variable {memo : Memo} {backend : Backend} {p q : Question} {answer : Answer}
  {asked : List Moment} {moment : Moment}

theorem map_find?_keep (memo : Memo) (kind other : OptionKind) (name otherName : String)
    (value : kind.Value) :
    ((memo.keep kind name value).find? other otherName).map (Answer.mk other otherName) =
      if kind = other ∧ name = otherName then some ⟨kind, name, value⟩
      else (memo.find? other otherName).map (Answer.mk other otherName) := by
  rw [find?, keep, List.findSome?_cons]
  by_cases h : kind = other ∧ name = otherName
  · obtain ⟨rfl, rfl⟩ := h
    simp
  · simp only [dif_neg h, if_neg h]
    rfl

theorem answer?_keep : (memo.keep q.kind q.name (q.fresh backend).value).answer? p =
    if q.isLike p then some (q.fresh backend) else memo.answer? p := by
  simp only [Question.isLike_iff]
  exact map_find?_keep memo q.kind p.kind q.name p.name (q.fresh backend).value

theorem answer?_eq_of_isLike (h : q.isLike p = true) : memo.answer? q = memo.answer? p := by
  obtain ⟨hkind, hname⟩ := Question.isLike_iff.1 h
  rw [answer?, answer?, hkind, hname]

theorem respond_cons_of_some (h : memo.answer? q = some answer) :
    (memo.respond ((backend, q) :: asked)).1 = answer :: (memo.respond asked).1 := by
  obtain ⟨value, hvalue, rfl⟩ := Option.map_eq_some_iff.1 h
  simp only [respond, Question.ask_eq, hvalue]

theorem respond_cons_of_none (h : memo.answer? q = none) :
    (memo.respond ((backend, q) :: asked)).1 = q.fresh backend ::
      ((memo.keep q.kind q.name (q.fresh backend).value).respond asked).1 := by
  have hvalue := Option.map_eq_none_iff.1 h
  simp only [respond, Question.ask_eq, hvalue]
  rfl

theorem firstAnswer_cons_of_isLike (h : q.isLike moment.2 = true) :
    firstAnswer ((backend, q) :: asked) moment = q.fresh backend := by
  simp only [firstAnswer, List.find?_cons, h, Option.getD_some]

theorem firstAnswer_cons_of_not_isLike (h : q.isLike moment.2 = false) :
    firstAnswer ((backend, q) :: asked) moment = firstAnswer asked moment := by
  simp only [firstAnswer, List.find?_cons, h]

/-- What a memo knows it answers itself; what it doesn't know the first question of a type about an
option settles. -/
theorem respond_eq (memo : Memo) (asked : List Moment) :
    (memo.respond asked).1 = asked.map fun moment =>
      (memo.answer? moment.2).getD (firstAnswer asked moment) := by
  induction asked generalizing memo with
  | nil => rfl
  | cons moment asked ih =>
    obtain ⟨backend, q⟩ := moment
    rw [List.map_cons]
    cases hkept : memo.answer? q with
    | some answer =>
      rw [respond_cons_of_some hkept, ih, Option.getD_some]
      refine congrArg (answer :: ·) (List.map_congr_left fun later _ => ?_)
      cases hlike : q.isLike later.2 with
      | true => rw [← answer?_eq_of_isLike hlike, hkept, Option.getD_some, Option.getD_some]
      | false => rw [firstAnswer_cons_of_not_isLike hlike]
    | none =>
      rw [respond_cons_of_none hkept, ih, Option.getD_none,
        firstAnswer_cons_of_isLike q.isLike_self]
      refine congrArg (q.fresh backend :: ·) (List.map_congr_left fun later _ => ?_)
      rw [answer?_keep]
      cases hlike : q.isLike later.2 with
      | true =>
        rw [← answer?_eq_of_isLike hlike, hkept, Option.getD_none,
          firstAnswer_cons_of_isLike hlike]
        rfl
      | false => rw [firstAnswer_cons_of_not_isLike hlike]; rfl

theorem exists_first (h : moment ∈ asked) : ∃ before backend first after,
    asked = before ++ (backend, first) :: after ∧ first.isLike moment.2 = true ∧
    (∀ earlier ∈ before, earlier.2.isLike moment.2 = false) ∧
    firstAnswer asked moment = first.fresh backend := by
  have hfound : (asked.find? (·.2.isLike moment.2)).isSome = true :=
    List.find?_isSome.2 ⟨moment, h, moment.2.isLike_self⟩
  obtain ⟨⟨backend, first⟩, hfirst⟩ := Option.isSome_iff_exists.1 hfound
  obtain ⟨hlike, before, after, hasked, hbefore⟩ := List.find?_eq_some_iff_append.1 hfirst
  refine ⟨before, backend, first, after, hasked, hlike, fun earlier hearlier => ?_, ?_⟩
  · simpa using hbefore earlier hearlier
  · rw [firstAnswer, hfirst, Option.getD_some]

theorem firstAnswer_answers (h : moment ∈ asked) (q : Question) :
    (firstAnswer asked moment).answers q = moment.2.isLike q := by
  obtain ⟨_, backend, first, _, -, hlike, -, hfirst⟩ := exists_first h
  rw [hfirst]
  exact Question.isLike_congr_left hlike

theorem firstAnswer_filter {q : Question} (h : moment.2.isLike q = true) :
    firstAnswer (asked.filter (·.2.isLike q)) moment = firstAnswer asked moment := by
  have hsame : (asked.filter (·.2.isLike q)).find? (·.2.isLike moment.2) =
      asked.find? (·.2.isLike moment.2) := by
    rw [List.find?_filter]
    simp only [Question.isLike_congr_right h, and_self, Bool.decide_eq_true]
  rw [firstAnswer, hsame]
  rfl

/-- Each answer is the one that the first question of its type about its option got when it was
asked: the raw text that was written then, converted, or else its default. So the answers to the
questions of one type about one option are what they would be if nothing else had been asked. -/
theorem first_answer_stays (asked : List Moment) :
    let answers := (empty.respond asked).1
    answers = asked.map (firstAnswer asked) ∧
    (∀ moment ∈ asked, ∃ before backend first after,
      asked = before ++ (backend, first) :: after ∧ first.isLike moment.2 = true ∧
      (∀ earlier ∈ before, earlier.2.isLike moment.2 = false) ∧
      firstAnswer asked moment = first.fresh backend) ∧
    ∀ q : Question,
      answers.filter (·.answers q) = (empty.respond (asked.filter (·.2.isLike q))).1 := by
  intro answers
  have hanswers (asked : List Moment) :
      (empty.respond asked).1 = asked.map (firstAnswer asked) := respond_eq empty asked
  refine ⟨hanswers asked, fun moment => exists_first, fun q => ?_⟩
  calc answers.filter (·.answers q)
    _ = (asked.filter ((·.answers q) ∘ firstAnswer asked)).map (firstAnswer asked) := by
      rw [← List.filter_map, ← hanswers]
    _ = (asked.filter (·.2.isLike q)).map (firstAnswer asked) :=
      congrArg _ (List.filter_congr fun moment hmoment => firstAnswer_answers hmoment q)
    _ = (asked.filter (·.2.isLike q)).map (firstAnswer (asked.filter (·.2.isLike q))) :=
      List.map_congr_left fun moment hmoment =>
        (firstAnswer_filter (List.mem_filter.1 hmoment).2).symm
    _ = (empty.respond (asked.filter (·.2.isLike q))).1 := (hanswers _).symm

/-- What is written before somebody edits it. -/
def depthBefore : Backend := fun name => [("maxDepth", " 10 "), ("strict", "maybe")].lookup name

/-- What is written afterwards. -/
def depthAfter : Backend := fun name => [("maxDepth", "100"), ("strict", "TRUE")].lookup name

def depthAsked : List Moment :=
  [(depthBefore, .int "maxDepth" 0), (depthBefore, .flag "strict" false),
    (depthAfter, .int "maxDepth" 7), (depthAfter, .text "maxDepth" "none"),
    (depthAfter, .flag "strict" true), (depthBefore, .text "maxDepth" "some")]

/-- The number stays, and so does the default that came first; the text is asked for later. -/
theorem first_answer_stays_depth :
    (depthAfter, .int "maxDepth" 7) ∈ depthAsked ∧
    (empty.respond depthAsked).1 = [⟨.int, "maxDepth", (10 : Int)⟩, ⟨.flag, "strict", false⟩,
      ⟨.int, "maxDepth", (10 : Int)⟩, ⟨.text, "maxDepth", "100"⟩, ⟨.flag, "strict", false⟩,
      ⟨.text, "maxDepth", "100"⟩] ∧
    ∃ backend, ∃ first : Question, first.isLike (.int "maxDepth" 7) = true ∧
      firstAnswer depthAsked (depthAfter, .int "maxDepth" 7) = first.fresh backend := by
  have hmem : (depthAfter, .int "maxDepth" 7) ∈ depthAsked := by simp [depthAsked]
  obtain ⟨_, backend, first, _, -, hlike, -, hfirst⟩ := (first_answer_stays depthAsked).2.1 _ hmem
  exact ⟨hmem, rfl, backend, first, hlike, hfirst⟩

end Memo

end ComposeCheck
