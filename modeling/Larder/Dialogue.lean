namespace Larder

inductive Dialogue (Question Answer α : Type) : Type
  | done (value : α)
  | ask (question : Question) (next : Answer → Dialogue Question Answer α)

namespace Dialogue

variable {Question Answer α β State : Type}

def bind (dialogue : Dialogue Question Answer α) (next : α → Dialogue Question Answer β) :
    Dialogue Question Answer β :=
  match dialogue with
  | .done value => next value
  | .ask question follow => .ask question fun answer => (follow answer).bind next

instance : Monad (Dialogue Question Answer) where
  pure := .done
  bind := .bind

def question (question : Question) : Dialogue Question Answer Answer :=
  .ask question .done

def play (respond : State → Question → Answer × State) :
    Dialogue Question Answer α → State → α × State
  | .done value, state => (value, state)
  | .ask question next, state =>
      let (answer, state) := respond state question
      play respond (next answer) state

def run : Dialogue Question Answer α → (Nat → Answer) → α × List Question
  | .done value, _ => (value, [])
  | .ask question next, answers =>
      let (value, questions) := run (next (answers 0)) fun n => answers (n + 1)
      (value, question :: questions)

@[simp] theorem run_done (value : α) (answers : Nat → Answer) :
    (done value : Dialogue Question Answer α).run answers = (value, []) := rfl

@[simp] theorem run_ask (question : Question) (next : Answer → Dialogue Question Answer α)
    (answers : Nat → Answer) :
    (ask question next).run answers =
      (((next (answers 0)).run fun n => answers (n + 1)).1,
        question :: ((next (answers 0)).run fun n => answers (n + 1)).2) := rfl

@[simp] theorem done_bind (value : α) (next : α → Dialogue Question Answer β) :
    (done value : Dialogue Question Answer α).bind next = next value := rfl

@[simp] theorem ask_bind (question : Question) (follow : Answer → Dialogue Question Answer α)
    (next : α → Dialogue Question Answer β) :
    (ask question follow).bind next = .ask question fun answer => (follow answer).bind next := rfl

@[simp] theorem bind_done (dialogue : Dialogue Question Answer α) : dialogue.bind .done = dialogue := by
  induction dialogue with
  | done value => rfl
  | ask question follow ih => simp [ih]

theorem bind_assoc {γ : Type} (dialogue : Dialogue Question Answer α)
    (f : α → Dialogue Question Answer β) (g : β → Dialogue Question Answer γ) :
    (dialogue.bind f).bind g = dialogue.bind fun value => (f value).bind g := by
  induction dialogue with
  | done value => rfl
  | ask question follow ih => simp [ih]

instance : LawfulMonad (Dialogue Question Answer) :=
  LawfulMonad.mk' _ bind_done (fun _ _ => rfl) bind_assoc

end Dialogue

end Larder
