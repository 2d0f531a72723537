import DenoBridge.Literal.Value
import DenoBridge.Text.Blank
import DenoBridge.Text.Quoted

/-! # Handlers

    A tag can attach a handler to text: a name, and the values that it is
    called with between round brackets, or just a value.  A handler changes
    nothing about how the text looks, but it has to make sense.
-/

namespace DenoBridge.Terminal.Handler

/-- Why a handler makes no sense. -/
inductive Fault where
  /-- The values of a handler are no expression. -/
  | unreadable (written handler message : String)
  /-- The expression writes no value. -/
  | noValue (handler : String) (fault : Literal.ValueFault)
  | embeddedNul (handler : String)
  deriving Repr, DecidableEq

/-- The wording of a fault. -/
def Fault.message : Fault → String
  | unreadable written handler message =>
    "error parsing " ++ Text.quote written ++ " in " ++ Text.quote handler ++ "; " ++ message
  | noValue handler fault => "error parsing " ++ Text.quote handler ++ "; " ++ fault.message
  | embeddedNul handler =>
    "error parsing " ++ Text.quote handler ++ "; source code string cannot contain null bytes"

/-- Can the character stand in the name of a handler? -/
def isNamePart (c : Char) : Bool :=
  Text.isWordChar c || c == '.'

/-- Does the text stand between round brackets in one line? -/
def isBracketed (text : List Char) : Bool :=
  text.head? = some '(' && 1 < text.length && text.getLast? = some ')' && !text.contains '\n'

/-- The expression for the values of a handler: what is in brackets behind its
    name, nothing in brackets for a name alone, and else the whole text. -/
def valuesOf (text : List Char) : List Char :=
  let rest := text.dropWhile isNamePart
  if rest.isEmpty then ['(', ')'] else if isBracketed rest then rest else text

/-- What is wrong with a handler. -/
def fault? (handler : List Char) : Option Fault :=
  let written := valuesOf (Text.trim handler)
  let name := String.ofList handler
  if written.contains '\x00' then some (.embeddedNul name)
  else
    match Literal.read written with
    | .error message => some (.unreadable (String.ofList written) name message)
    | .ok node => (Literal.valueFault? (written.length + 3) node).map (.noValue name)

end DenoBridge.Terminal.Handler
