import Listing.Text.Numeral
import Listing.Text.Quoted

/-!
# Errors

An error has a code, a message and notes: the operation under way, the field concerned,
suggestions, a help text, and the message of the error behind it. What can go wrong inside this
library is a closed list of causes, and `Cause.toError` is the only place where a cause is given
words.
-/
namespace Listing

/-- The kinds of errors. -/
inductive ErrorCode where
  /-- A parameter, or the source of parameters, is invalid. -/
  | invalidParameter
  /-- A value does not fit the kind of its field. -/
  | invalidDataType
  /-- A configuration is invalid. -/
  | invalidConfiguration
  /-- Something has not been configured. -/
  | missingConfiguration
  deriving DecidableEq, Repr

namespace ErrorCode

/-- The code by which programs know an error. -/
def name : ErrorCode → String
  | invalidParameter => "S5003"
  | invalidDataType => "S6001"
  | invalidConfiguration => "S7001"
  | missingConfiguration => "S7002"

/-- A short description. -/
def description : ErrorCode → String
  | invalidParameter => "Invalid parameter"
  | invalidDataType => "Invalid data type"
  | invalidConfiguration => "Invalid configuration"
  | missingConfiguration => "Missing configuration"

end ErrorCode

/-- An error with its notes. -/
structure Error where
  /-- The kind of error. -/
  code : ErrorCode
  /-- What went wrong. -/
  message : String
  /-- The operation under way. -/
  operation : Option String := none
  /-- The field concerned. -/
  field : Option String := none
  /-- Ways out, in the order in which they were noted. -/
  suggestions : List String := []
  /-- A text that helps. -/
  help : Option String := none
  /-- The message of the error behind this one. -/
  source : Option String := none
  deriving DecidableEq, Repr

namespace Error

/-- An error about a parameter. -/
def invalidParameter (message : String) : Error := { code := .invalidParameter, message }

/-- An error about a value that does not fit the kind of its field. -/
def invalidDataType (field expected value : String) : Error where
  code := .invalidDataType
  message :=
    "cannot convert " ++ Text.quoted value ++ " to " ++ expected ++ " for field '" ++ field ++ "'"
  field := some field

/-- An error about a configuration. -/
def invalidConfiguration (message : String) : Error := { code := .invalidConfiguration, message }

/-- An error about something that is not set. -/
def missingConfiguration (what : String) : Error where
  code := .missingConfiguration
  message := what ++ " is not set"
  help := some "bind the request parameters before building the scope"

/-- The code and the message. -/
def display (error : Error) : String := "[" ++ error.code.name ++ "] " ++ error.message

/-- The description, the code, the message and a line for each note. -/
def displayFull (error : Error) : String :=
  let line (label : String) (note : String) : String := "\n  " ++ label ++ ": " ++ note
  let lines (label : String) (notes : List String) : String :=
    String.join (notes.map (line label))
  error.code.description ++ ": " ++ error.display
    ++ lines "operation" error.operation.toList
    ++ lines "field" error.field.toList
    ++ lines "suggestion" error.suggestions
    ++ lines "help" error.help.toList

/-- Whether the error is about the type of a value. -/
def isDataTypeError (error : Error) : Bool := error.code == .invalidDataType

/-- Whether the error is about a configuration. -/
def isConfigurationError (error : Error) : Bool :=
  error.code == .invalidConfiguration || error.code == .missingConfiguration

end Error

/-- Why a reference cannot be read as a URL. -/
inductive UrlFault where
  /-- A host is required and there is none. -/
  | emptyHost
  /-- A host name contains what no name may contain. -/
  | invalidHostName
  /-- What follows the colon after a host is not a number of sixteen bits. -/
  | invalidPort
  /-- A host that ends in a number is no IPv4 address. -/
  | invalidIpv4
  /-- A host in brackets is no IPv6 address. -/
  | invalidIpv6
  /-- A host that is not a domain contains what no host may contain. -/
  | invalidHostCharacter
  /-- The reference has no scheme. -/
  | relative
  deriving DecidableEq, Repr

/-- The wording of a fault. -/
def UrlFault.message : UrlFault → String
  | .emptyHost => "empty host"
  | .invalidHostName => "invalid international domain name"
  | .invalidPort => "invalid port number"
  | .invalidIpv4 => "invalid IPv4 address"
  | .invalidIpv6 => "invalid IPv6 address"
  | .invalidHostCharacter => "invalid domain character"
  | .relative => "relative URL without a base"

/-- What can go wrong. -/
inductive Cause where
  /-- A request URI is no URL. -/
  | unreadableUri (uri : String) (fault : UrlFault)
  /-- A fragment has more placeholders than values. -/
  | morePlaceholders (fragment : String)
  /-- A fragment has fewer placeholders than values. -/
  | fewerPlaceholders (fragment : String)
  /-- A value for a field of truth values is none of the spellings of one. -/
  | notBoolean (field value : String)
  /-- A name is no dialect's. -/
  | unknownDialect (name : String)
  /-- A size is no number. -/
  | invalidSize (setting value : String) (fault : Text.NumeralFault)
  /-- The greatest page size is zero. -/
  | zeroMaxPageSize
  /-- The page size is zero. -/
  | zeroPageSize
  /-- The page size is greater than the greatest page size. -/
  | pageSizeExceedsMax (pageSize maxPageSize : UInt64)
  /-- A configuration document holds something else than the configuration asks for. -/
  | invalidDocument (problem : String)
  /-- The orderings were asked for before a request was bound. -/
  | sortUnbound
  deriving DecidableEq, Repr

/-- The error of a cause. -/
def Cause.toError : Cause → Error
  | .unreadableUri uri fault =>
    { Error.invalidParameter ("cannot parse uri " ++ Text.quoted uri ++ ": " ++ fault.message)
      with source := some fault.message }
  | .morePlaceholders fragment =>
    .invalidParameter ("fragment has more placeholders than bound values: " ++ fragment)
  | .fewerPlaceholders fragment =>
    .invalidParameter ("fragment has fewer placeholders than bound values: " ++ fragment)
  | .notBoolean field value => .invalidDataType field "bool" value
  | .unknownDialect name =>
    { Error.invalidConfiguration ("unknown dialect '" ++ name ++ "'")
      with suggestions := ["use one of: postgresql, mysql, sqlite"] }
  | .invalidSize setting value fault =>
    { Error.invalidConfiguration
        (setting ++ " must be a positive integer, got " ++ Text.quoted value)
      with source := some fault.message }
  | .zeroMaxPageSize => .invalidConfiguration "max_page_size must be at least 1"
  | .zeroPageSize => .invalidConfiguration "page_size must be at least 1"
  | .pageSizeExceedsMax pageSize maxPageSize =>
    .invalidConfiguration ("page_size (" ++ toString pageSize.toNat
      ++ ") exceeds max_page_size (" ++ toString maxPageSize.toNat ++ ")")
  | .invalidDocument problem =>
    { Error.invalidConfiguration ("invalid scope configuration: " ++ problem)
      with source := some problem }
  | .sortUnbound =>
    { Error.missingConfiguration "SortScope request context" with operation := some "sort" }

end Listing
