import ExtensionAtlas.Document.Issue
import ExtensionAtlas.Host.NameFault
import ExtensionAtlas.Model.Vocabulary
import ExtensionAtlas.Text.Digit
import ExtensionAtlas.Text.Quoted
import ExtensionAtlas.Text.Utf8

/-! Everything that can go wrong, by cause, and the one place that words it. -/

namespace ExtensionAtlas

/-- Why the file system gives no text for a path. -/
inductive FileFault where
  | notFound
  | noDevice
  | notDirectory
  | isDirectory
  | nameTooLong
  deriving DecidableEq, Repr

namespace FileFault

/-- The number of an error of the file system. -/
def number : FileFault → Nat
  | notFound => 2
  | noDevice => 6
  | notDirectory => 20
  | isDirectory => 21
  | nameTooLong => 36

/-- The wording of an error of the file system. -/
def text : FileFault → String
  | notFound => "No such file or directory"
  | noDevice => "No such device or address"
  | notDirectory => "Not a directory"
  | isDirectory => "Is a directory"
  | nameTooLong => "File name too long"

end FileFault

/-- What is asked of a value that cannot do it. -/
inductive Use where
  | part (name : String)
  | member
  | items
  | holding
  | standing
  | reading
  | key
  | position
  | place
  | start
  | length
  | ordering
  | bounding
  | decoding
  | record (title : String)
  | setting
  | path
  deriving DecidableEq, Repr

/-- The complaint about a use of a value of some kind. -/
def Use.complaint (kind : String) : Use → String
  | part name => s!"'{kind}' object has no attribute '{name}'"
  | member =>
    if kind == "list" then "list indices must be integers or slices, not str"
    else if kind == "str" then "string indices must be integers, not 'str'"
    else s!"'{kind}' object is not subscriptable"
  | items => s!"'{kind}' object is not iterable"
  | holding => s!"argument of type '{kind}' is not iterable"
  | standing => s!"'in <string>' requires string as left operand, not {kind}"
  | reading => s!"expected string or bytes-like object, got '{kind}'"
  | key => s!"unhashable type: '{kind}'"
  | position => s!"list indices must be integers or slices, not {kind}"
  | place => s!"string indices must be integers, not '{kind}'"
  | start => "slice indices must be integers or None or have an __index__ method"
  | length => s!"object of type '{kind}' has no len()"
  | ordering => s!"'<' not supported between instances of 'int' and '{kind}'"
  | bounding => s!"'<' not supported between instances of '{kind}' and 'int'"
  | decoding => s!"decoding to str: need a bytes-like object, {kind} found"
  | record title => s!"{title}() argument after ** must be a mapping, not {kind}"
  | setting => s!"str expected, not {kind}"
  | path => s!"expected str, bytes or os.PathLike object, not {kind}"

/-- Why the target of a request is refused. -/
inductive TargetFault where
  | tooLong
  | unprintable (c : Char) (position : Nat)
  | startsWith (mark : String)
  | badPort (text : String)
  | badShortAddress (host : String)
  | badLongAddress (host : String)
  /-- The host has a name that cannot be written in ASCII. -/
  | badName (host : String)
  /-- A part of the target gets too long when it is written in ASCII. -/
  | partTooLong (part : String)
  deriving DecidableEq, Repr

/-- The wording of a refusal of a target. -/
def TargetFault.message : TargetFault → String
  | tooLong => "URL too long"
  | unprintable c position =>
    s!"Invalid non-printable ASCII character in URL, {Text.quoted c.toString} at " ++
      s!"position {position}."
  | startsWith mark => s!"Relative URLs cannot have a path starting with '{mark}'"
  | badPort text => s!"Invalid port: {Text.quoted text}"
  | badShortAddress host => s!"Invalid IPv4 address: {Text.quoted host}"
  | badLongAddress host => s!"Invalid IPv6 address: {Text.quoted host}"
  | badName host => s!"Invalid IDNA hostname: {Text.quoted host}"
  | partTooLong part => s!"URL component '{part}' too long"

/-- The causes of failure. -/
inductive Fault where
  | unknownWord (vocabulary : Vocabulary) (word : String)
  /-- A value that is no text stands where a word should. -/
  | notWord (vocabulary : Vocabulary) (shown : String)
  | unknownMember (record member : String)
  | incomplete (record : String) (absent : List String)
  | misused (kind : String) (use : Use)
  | numeralTooLong (digits : Nat)
  /-- A number that would take too many digits is to be written. -/
  | numeralUnwritable
  | workersUnreadable (raw : String)
  | workersBelowOne
  | noWorkers
  | connectionUnset
  | inputAbsent (path : String)
  | nothingToAnalyze
  | emptyPattern
  | absolutePattern
  | pointPattern
  | closedPointPattern
  | strayDoubleStar
  | unreadableFile (path : String) (cause : FileFault)
  | undecodableFile (cause : Text.Utf8Fault)
  | nullInPath
  /-- Settings that no connection can be made with, and what is said about them. -/
  | connectionRefused (complaint : String)
  | databaseAbsent
  | queryFailed
  | nodeWithoutId (label : String)
  | extensionUnknown (name : String)
  | eventUnknown (name : String)
  | extensionsUnknown (base : String)
  | memberAbsent (key : String)
  | positionAbsent
  | positionTooLarge
  | startOutside
  | badTarget (cause : TargetFault)
  /-- A value that is no text stands where a target should. -/
  | notTarget (kind shown : String)
  | unknownScheme (scheme : String)
  | badHostName (cause : Host.NameFault)
  | invalidDocument (issues : List Document.Issue)
  deriving DecidableEq, Repr

namespace Text.Utf8Fault

/-- The bytes that a refusal is about: one by its value, several by their offsets. -/
def place (fault : Utf8Fault) : String :=
  if fault.stop == fault.start + 1 then
    let byte := String.ofList (hexDigits fault.lead.toNat 2)
    s!"byte 0x{byte} in position {fault.start}"
  else s!"bytes in position {fault.start}-{fault.stop - 1}"

def message (fault : Utf8Fault) : String :=
  s!"'utf-8' codec can't decode {fault.place}: {reasonText fault.reason}"

end Text.Utf8Fault

namespace Fault

/-- Names in quotes, as a sentence lists them. -/
def listed : List String → String
  | [] => ""
  | [name] => Text.quoted name
  | [first, last] => s!"{Text.quoted first} and {Text.quoted last}"
  | names =>
    String.intercalate ", " (names.dropLast.map Text.quoted)
      ++ ", and " ++ Text.quoted (names.getLast?.getD "")

/-- The wording of a failure. The issues of an invalid document are reported one by one. -/
def message : Fault → String
  | unknownWord vocabulary word => s!"{Text.quoted word} is not a valid {vocabulary.title}"
  | notWord vocabulary shown => s!"{shown} is not a valid {vocabulary.title}"
  | unknownMember record member =>
    s!"{record}.__init__() got an unexpected keyword argument '{member}'"
  | incomplete record absent =>
    let plural := if absent.length == 1 then "" else "s"
    s!"{record}.__init__() missing {absent.length} required positional argument{plural}: " ++
      listed absent
  | misused kind use => use.complaint kind
  | numeralTooLong digits =>
    s!"Exceeds the limit ({Text.numeralLimit} digits) for integer string conversion: " ++
      s!"value has {digits} digits; use sys.set_int_max_str_digits() to increase the limit"
  | numeralUnwritable =>
    s!"Exceeds the limit ({Text.numeralLimit} digits) for integer string conversion; " ++
      "use sys.set_int_max_str_digits() to increase the limit"
  | workersUnreadable raw => s!"ALGRAPH_MAX_WORKERS must be an integer, got {Text.quoted raw}"
  | workersBelowOne => "ALGRAPH_MAX_WORKERS must be at least 1"
  | noWorkers => "max_workers must be greater than 0"
  | connectionUnset => "Neo4j configuration missing required environment variables"
  | inputAbsent path => s!"{path} does not exist"
  | nothingToAnalyze => "No AL files found for analysis"
  | emptyPattern => "Unacceptable pattern: ''"
  | absolutePattern => "Non-relative patterns are unsupported"
  | pointPattern => "tuple index out of range"
  | closedPointPattern => "'_TerminatingSelector' object has no attribute 'select_from'"
  | strayDoubleStar => "Invalid pattern: '**' can only be an entire path component"
  | unreadableFile path cause =>
    s!"[Errno {cause.number}] {cause.text}: {Text.quoted path}"
  | undecodableFile cause => cause.message
  | nullInPath => "embedded null byte"
  | connectionRefused complaint => complaint
  | databaseAbsent => "Neo4j driver is not initialized"
  | queryFailed => "query failed"
  | nodeWithoutId label => s!"Node properties for label {label} missing 'id'"
  | extensionUnknown name => s!"Extension {name} not found"
  | eventUnknown name => s!"Event {name} not found"
  | extensionsUnknown base => s!"No extensions of {base} found"
  | memberAbsent key => Text.quoted key
  | positionAbsent => "list assignment index out of range"
  | positionTooLarge => "cannot fit 'int' into an index-sized integer"
  | startOutside => "string index out of range"
  | badTarget cause => cause.message
  | notTarget kind shown =>
    s!"Invalid type for url.  Expected str or httpx.URL, got <class '{kind}'>: {shown}"
  | unknownScheme scheme => Text.quoted scheme
  | badHostName cause => cause.message
  | invalidDocument _ => "invalid document"

end Fault

end ExtensionAtlas
