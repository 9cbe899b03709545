import SearchIndex.Number.Decimal
import SearchIndex.Text.Digit

/-!
# Faults of documents

Why a text is no document, by cause.

## Main definitions

* `DateFault`: why a date or a time is none
* `Fault`: why a text is no document
* `Fault.message`: what is reported about it, if anything
-/

namespace SearchIndex.Yaml

/-- Why a date or a time is none. -/
inductive DateFault where
  | year
  | month
  | day
  | hour
  | minute
  | second
deriving DecidableEq, Repr

/-- What is reported about a date or a time that is none. -/
def DateFault.message : DateFault → String
  | .year => "year 0 is out of range"
  | .month => "month must be in 1..12"
  | .day => "day is out of range for month"
  | .hour => "hour must be in 0..23"
  | .minute => "minute must be in 0..59"
  | .second => "second must be in 0..59"

/-- Why a text is no document. -/
inductive Fault where
  /-- It holds a character that no document holds. -/
  | character
  /-- It falls into no tokens. -/
  | token
  /-- Its tokens make no document. -/
  | arrangement
  /-- It refers to something that is not there, or goes on after its end. -/
  | reference
  /-- A part of it stands for no value. -/
  | content
  /-- A date in it is none of the calendar. -/
  | date (fault : DateFault)
  /-- A text in it stands for no integer in a base. -/
  | integer (base : Nat) (text : String)
  /-- A number in it is empty. -/
  | noNumber
  /-- A number in it is none. -/
  | number (text : String)
  /-- A truth value in it is none. -/
  | word (text : String)
  /-- A date in it is not written like one. -/
  | noDate
  /-- A number in it is no code point. -/
  | codePoint
deriving DecidableEq, Repr

/-- **What is reported about a fault**, if anything. -/
def Fault.message : Fault → String
  | .date fault => fault.message
  | .integer base text => Text.notAnInteger base text
  | .noNumber => "string index out of range"
  | .number text => "could not convert string to float: " ++ Text.quote text
  | .word text => Text.quote text
  | .codePoint => "chr() arg not in range(0x110000)"
  | .character | .token | .arrangement | .reference | .content | .noDate => ""

end SearchIndex.Yaml
