/-! Answers given in order, of which the last one is repeated. -/

namespace ServiceCall.Scripted

/-- The answer to a question by its number; after the last answer that one is given again. -/
def answerAt {α : Type} (answers : List α) (number : Nat) : Option α :=
  answers[min number (answers.length - 1)]?

end ServiceCall.Scripted
