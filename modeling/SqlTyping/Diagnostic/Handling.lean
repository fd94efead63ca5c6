import SqlTyping.Diagnostic

/-!
# Handling errors

What the code that an error passes through does with it: raise it, decorate it, or declare that it
was not expected. Where nothing has failed there is no error, and nothing to decorate either.
-/

namespace SqlTyping

/-- What is done with an error. -/
inductive Handling where
  /-- A new error with a code. -/
  | raise (state : SqlState) (message : String)
  /-- A new error without a code. -/
  | fail (message : String)
  /-- A new failed assertion. -/
  | assertion (message : String)
  /-- Context in front of the message, and a code. -/
  | wrap (state : SqlState) (context : String)
  /-- Context in front of the message. -/
  | inContext (context : String)
  /-- A code. -/
  | code (state : SqlState)
  /-- The position of the operand or parameter at fault; a negative one is none. -/
  | place (position : Int)
  | detail (text : String)
  | hint (text : String)
  /-- A failed assertion, because nobody expected the error. -/
  | unexpected (context : String)

namespace Handling

/-- The error after it is handled, if there is one. -/
def apply (d : Option Diagnostic) : Handling → Option Diagnostic
  | raise state message => some (.ofCode state message)
  | fail message => some (.plain message)
  | assertion message => some (.assertion message)
  | wrap state context => d.map (.wrap state context)
  | inContext context => d.map (.inContext context)
  | code state => d.map (.coded state)
  | place position => d.map (.atPosition position)
  | detail text => d.map (.detailed text)
  | hint text => d.map (.hinted text)
  | unexpected context => d.map (.unexpected context)

/-- The error after it is handled several times. -/
def applyAll (d : Option Diagnostic) (handlings : List Handling) : Option Diagnostic :=
  handlings.foldl apply d

end Handling

end SqlTyping
