import CodeAtlas.Inquiry.Basic

/-!
# What an inquiry asks

`Inquiry.Asks` bounds the paths of all questions of an inquiry, whatever the answers are, and says
what its value is like. Answers are trusted in one point only: the symbols of a file are located in
that file (`Question.Fits`). One rule for each way of making an inquiry carries the bound through
every operation that is written with them.
-/

namespace CodeAtlas

/-- The path that a question is about. -/
def Question.path : Question → Path
  | .content path | .symbols path | .modules path | .headers path => path

/-- An answer fits its question: symbols are located in the file they are asked for. -/
def Question.Fits : (question : Question) → question.Answer → Prop
  | .symbols path, found => ∀ symbol ∈ found, symbol.location.path = path
  | .content _, _ | .modules _, _ | .headers _, _ => True

namespace Inquiry

variable {α β : Type} {within : Path → Prop}

/-- Every question is about a path in `within`, as long as the answers fit, and the value is one of
those in `gives`. -/
def Asks (within : Path → Prop) (gives : α → Prop) : Inquiry α → Prop
  | .done value => gives value
  | .fail _ => True
  | .ask question next => within question.path ∧
    ∀ answer, (∀ value, answer = .ok value → question.Fits value) →
      (next answer).Asks within gives

theorem asks_pure {gives : α → Prop} {value : α} (h : gives value) :
    (pure value : Inquiry α).Asks within gives :=
  h

theorem asks_fail {gives : α → Prop} (failure : Failure) :
    (Inquiry.fail failure).Asks within gives :=
  trivial

/-- An inquiry that goes on with another asks what the two of them ask. -/
theorem Asks.bind {middle : α → Prop} {gives : β → Prop} {inquiry : Inquiry α}
    {next : α → Inquiry β} (h : inquiry.Asks within middle)
    (hnext : ∀ value, middle value → (next value).Asks within gives) :
    (inquiry >>= next).Asks within gives := by
  induction inquiry with
  | done value => exact hnext value h
  | fail failure => trivial
  | ask question rest ih => exact ⟨h.1, fun answer hfits => ih answer (h.2 answer hfits)⟩

/-- A weaker bound on the value. -/
theorem Asks.imp {gives weaker : α → Prop} {inquiry : Inquiry α} (h : inquiry.Asks within gives)
    (himp : ∀ value, gives value → weaker value) : inquiry.Asks within weaker := by
  induction inquiry with
  | done value => exact himp value h
  | fail failure => trivial
  | ask question rest ih => exact ⟨h.1, fun answer hfits => ih answer (h.2 answer hfits)⟩

/-- Nothing said about the value. -/
theorem Asks.trivially {gives : α → Prop} {inquiry : Inquiry α} (h : inquiry.Asks within gives) :
    inquiry.Asks within fun _ => True :=
  h.imp fun _ _ => trivial

theorem asks_of_except {gives : α → Prop} {result : Except Failure α}
    (h : ∀ value, result = .ok value → gives value) : (ofExcept result).Asks within gives := by
  cases result with
  | ok value => exact h value rfl
  | error failure => trivial

theorem asks_check (deadline : Deadline) : (check deadline).Asks within fun _ => True :=
  asks_of_except fun _ _ => trivial

theorem asks_attempt {question : Question} (h : within question.path) :
    (attempt question).Asks within fun answer =>
      ∀ value, answer = .ok value → question.Fits value :=
  ⟨h, fun _ hfits => hfits⟩

theorem asks_get {question : Question} (h : within question.path) :
    (get question).Asks within question.Fits :=
  ⟨h, fun _ hfits => asks_of_except hfits⟩

/-- After a check of the time, an inquiry asks what it asks. -/
theorem asks_check_bind {gives : α → Prop} {deadline : Deadline} {next : Inquiry α}
    (h : next.Asks within gives) : (do check deadline; next).Asks within gives :=
  (asks_check deadline).bind fun _ _ => h

/-- Whether a question is answered or not, an inquiry asks what it asks in both cases. -/
theorem asks_attempt_bind {gives : α → Prop} {question : Question}
    {next : Except Failure question.Answer → Inquiry α} (h : within question.path)
    (hok : ∀ value, question.Fits value → (next (.ok value)).Asks within gives)
    (herror : ∀ failure, (next (.error failure)).Asks within gives) :
    (attempt question >>= next).Asks within gives := by
  refine (asks_attempt h).bind fun answer hfits => ?_
  cases answer with
  | ok value => exact hok value (hfits value rfl)
  | error failure => exact herror failure

end Inquiry

end CodeAtlas
