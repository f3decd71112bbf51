import CodeAtlas.Heritage
import CodeAtlas.Module.Scan
import CodeAtlas.Workspace.Basic

/-!
# Inquiries

An inquiry is a computation that asks questions about files and goes on with the answers. What it
asks may depend on the answers before, but it learns about files in no other way. `Inquiry.eval`
answers every question from the files themselves; `CodeAtlas.Inquiry.Cache` answers them from memory
where it can.
-/

namespace CodeAtlas

/-- A question about one file, given by a path inside the root. -/
inductive Question where
  /-- The text of the file. -/
  | content (path : Path)
  /-- Its symbols in source order. -/
  | symbols (path : Path)
  /-- Its imports and exports. -/
  | modules (path : Path)
  /-- The headers of its classes and interfaces. -/
  | headers (path : Path)
  deriving DecidableEq, Repr, Inhabited

/-- What answers a question. -/
abbrev Question.Answer : Question → Type
  | .content _ => Text
  | .symbols _ => List Symbol
  | .modules _ => ModuleSyntax
  | .headers _ => List ClassHeader

/-- A computation that asks questions. -/
inductive Inquiry (α : Type) where
  /-- Finished with a value. -/
  | done (value : α)
  /-- Finished without a value. -/
  | fail (failure : Failure)
  /-- Ask a question and go on with its answer. -/
  | ask (question : Question) (next : Except Failure question.Answer → Inquiry α)

namespace Inquiry

/-- Go on with the value of an inquiry. -/
def bind {α β : Type} : Inquiry α → (α → Inquiry β) → Inquiry β
  | .done value, next => next value
  | .fail failure, _ => .fail failure
  | .ask question rest, next => .ask question fun answer => (rest answer).bind next

instance : Monad Inquiry where
  pure := done
  bind := bind

/-- Ask a question and look at its answer. -/
def attempt (question : Question) : Inquiry (Except Failure question.Answer) :=
  .ask question .done

/-- The inquiry of a value or a failure. -/
def ofExcept {α : Type} : Except Failure α → Inquiry α
  | .ok value => .done value
  | .error failure => .fail failure

/-- Ask a question and fail if it has no answer. -/
def get (question : Question) : Inquiry question.Answer :=
  .ask question ofExcept

/-- Fail if a time budget is used up. -/
def check (deadline : Deadline) : Inquiry Unit :=
  ofExcept deadline.check

/-- The result of an inquiry whose questions an oracle answers. -/
def eval {α : Type} (oracle : (question : Question) → Except Failure question.Answer) :
    Inquiry α → Except Failure α
  | .done value => .ok value
  | .fail failure => .error failure
  | .ask question next => (next (oracle question)).eval oracle

section Eval

variable {α β : Type} (oracle : (question : Question) → Except Failure question.Answer)

@[simp] theorem eval_pure (value : α) : (pure value : Inquiry α).eval oracle = .ok value :=
  rfl

/-- An inquiry that goes on with another is answered one after the other. -/
@[simp] theorem eval_bind (inquiry : Inquiry α) (next : α → Inquiry β) :
    (inquiry >>= next).eval oracle =
      inquiry.eval oracle >>= fun value => (next value).eval oracle := by
  induction inquiry with
  | done value => rfl
  | fail failure => rfl
  | ask question rest ih => exact ih (oracle question)

@[simp] theorem eval_attempt (question : Question) :
    (attempt question).eval oracle = .ok (oracle question) :=
  rfl

@[simp] theorem eval_of_except (result : Except Failure α) :
    (ofExcept result).eval oracle = result := by
  cases result <;> rfl

@[simp] theorem eval_get (question : Question) : (get question).eval oracle = oracle question :=
  eval_of_except oracle (oracle question)

@[simp] theorem eval_check (deadline : Deadline) : (check deadline).eval oracle = deadline.check :=
  eval_of_except oracle deadline.check

end Eval

end Inquiry

namespace Workspace

/-- The text of a file. -/
def content (workspace : Workspace) (path : Path) : Except Failure Text :=
  (workspace.storage.read path).mapError (.unread (workspace.relative path))

/-- The way to read a file's symbols, if its language is supported. -/
def parserFor (workspace : Workspace) (path : Path) : Except Failure SymbolParser :=
  let missing : Failure := .misuse (.noLanguage (workspace.relative path))
  match workspace.parser with
  | none => .error missing
  | some parser => if Language.supports path then .ok parser else .error missing

/-- The answer of a reader, or a failure if it cut the text outside its bounds. -/
def orUnparsed {α : Type} : Option α → Except Failure α
  | some value => .ok value
  | none => .error (.unparsed "a cut of the text lies outside it")

/-- What a question about a file's syntax derives from its text. -/
def derive (parser : SymbolParser) : (question : Question) → Text → Except Failure question.Answer
  | .content _, text => .ok text
  | .symbols path, text => (parser.parse path text).mapError .unparsed
  | .modules _, text => orUnparsed (Module.scan? text)
  | .headers _, text => orUnparsed (Heritage.scan? text)

/-- The answer to a question from the files themselves. -/
def answer (workspace : Workspace) (question : Question) : Except Failure question.Answer :=
  match question with
  | .content path => workspace.content path
  | .symbols path => do
    let parser ← workspace.parserFor path
    derive parser (.symbols path) (← workspace.content path)
  | .modules path => do
    let parser ← workspace.parserFor path
    derive parser (.modules path) (← workspace.content path)
  | .headers path => do
    let parser ← workspace.parserFor path
    derive parser (.headers path) (← workspace.content path)

end Workspace

end CodeAtlas
