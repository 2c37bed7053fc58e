/-!
# Input types

What a text field expects to be typed into it. A mask holds an input class in its low four bits and
a variation of that class in the eight bits above; all other bits are flags, which do not matter
here.
-/

namespace UiRecovery

inductive InputType where
  | text
  | uri
  | email
  | emailSubject
  | shortMessage
  | longMessage
  | personName
  | address
  | password
  | visiblePassword
  | webEditText
  | filter
  | phonetic
  | number
  | numericPassword
  | phone
  | date
  | time
  | dateTime
deriving DecidableEq, Repr

namespace InputType

def label : InputType → String
  | .text => "text"
  | .uri => "uri"
  | .email => "email"
  | .emailSubject => "email_subject"
  | .shortMessage => "short_message"
  | .longMessage => "long_message"
  | .personName => "person_name"
  | .address => "address"
  | .password => "password"
  | .visiblePassword => "visible_password"
  | .webEditText => "web_edit_text"
  | .filter => "text_filter"
  | .phonetic => "text_phonetic"
  | .number => "number"
  | .numericPassword => "numeric_password"
  | .phone => "phone"
  | .date => "date"
  | .time => "time"
  | .dateTime => "date_time"

/-- The class of a mask. -/
def classBits (mask : Int32) : Int32 := mask &&& 0xf

/-- The variation of a mask within its class. -/
def variationBits (mask : Int32) : Int32 := mask &&& 0xff0

/-- Variations of free text; an unknown one is plain text. -/
def ofTextVariation (variation : Int32) : InputType :=
  if variation = 0x10 then .uri
  else if variation = 0x20 then .email
  else if variation = 0x30 then .emailSubject
  else if variation = 0x40 then .shortMessage
  else if variation = 0x50 then .longMessage
  else if variation = 0x60 then .personName
  else if variation = 0x70 then .address
  else if variation = 0x80 then .password
  else if variation = 0x90 then .visiblePassword
  else if variation = 0xa0 then .webEditText
  else if variation = 0xb0 then .filter
  else if variation = 0xc0 then .phonetic
  else if variation = 0xd0 then .email
  else if variation = 0xe0 then .password
  else .text

/-- The input type of a mask, `none` for a class without one. -/
def ofMask? (mask : Int32) : Option InputType :=
  let variation := variationBits mask
  if classBits mask = 1 then some (ofTextVariation variation)
  else if classBits mask = 2 then some (if variation = 0x10 then .numericPassword else .number)
  else if classBits mask = 3 then some .phone
  else if classBits mask = 4 then
    some (if variation = 0x10 then .date else if variation = 0x20 then .time else .dateTime)
  else none

/-- The label of a mask, empty for a class without input type. -/
def labelOfMask (mask : Int32) : String :=
  match ofMask? mask with
  | some t => t.label
  | none => ""

end InputType

end UiRecovery
