/-!
# Diagnostic codes

Every diagnosis has a code, and every code a severity, a category, advice, and whether one can go on
after it.  Codes that begin with `E` tell of errors and those with `I` of successes.  A code outside
the list is of medium severity and can be gone on after.

* `Code.ofText?_text`: a code is known by its text.
-/

namespace Lookahead

/-- How grave a diagnosis is. -/
inductive Severity where
  | critical | high | medium | low
deriving DecidableEq, Repr

namespace Severity

/-- The severities, gravest first. -/
def all : List Severity := [critical, high, medium, low]

/-- The name of a severity. -/
def text : Severity → String
  | critical => "Critical" | high => "High" | medium => "Medium" | low => "Low"

/-- The severity of that name. -/
def ofText? (s : String) : Option Severity := all.find? (·.text == s)

/-- The number of graver severities. -/
def rank : Severity → Nat
  | critical => 0 | high => 1 | medium => 2 | low => 3

end Severity

/-- A diagnostic code. -/
inductive Code where
  | internalError | initializationFailure | configuration | fileNotFound | invalidExtension
  | fileTooLarge | permissionDenied | invalidEncoding | readFailure | invalidPath | tooManyLines
  | invalidLexeme | unterminatedString | unterminatedComment | terminalMismatch | noProduction
  | stackDepth | tableConflict | tableInconsistent | internalParserError | malformedLine
  | unknownCategory | listingAccess | directoryRead | noFilesFound | tooManyFiles | completed
  | initialized | fileLoaded | fileValidated | scanned | scannedCleanly | inputAccepted
  | tableVerified | listingWritten | listingLoaded | batchCompleted
deriving DecidableEq, Repr

/-- What is known of a code. -/
structure CodeInfo where
  category : String
  severity : Severity
  /-- Work can go on after it. -/
  recoverable : Bool
  /-- Work must stop at it. -/
  halts : Bool
  description : String
  /-- What to do about it. -/
  advice : String
deriving DecidableEq, Repr

namespace Code

/-- The codes. -/
def all : List Code :=
  [internalError, initializationFailure, configuration, fileNotFound, invalidExtension,
   fileTooLarge, permissionDenied, invalidEncoding, readFailure, invalidPath, tooManyLines,
   invalidLexeme, unterminatedString, unterminatedComment, terminalMismatch, noProduction,
   stackDepth, tableConflict, tableInconsistent, internalParserError, malformedLine,
   unknownCategory, listingAccess, directoryRead, noFilesFound, tooManyFiles, completed,
   initialized, fileLoaded, fileValidated, scanned, scannedCleanly, inputAccepted, tableVerified,
   listingWritten, listingLoaded, batchCompleted]

/-- A code as it is written. -/
def text : Code → String
  | internalError => "ERR001" | initializationFailure => "ERR002" | configuration => "E070"
  | fileNotFound => "E005" | invalidExtension => "E006" | fileTooLarge => "E007"
  | permissionDenied => "E009" | invalidEncoding => "E010" | readFailure => "E011"
  | invalidPath => "E012" | tooManyLines => "E013" | invalidLexeme => "E020"
  | unterminatedString => "E021" | unterminatedComment => "E022" | terminalMismatch => "E040"
  | noProduction => "E041" | stackDepth => "E042" | tableConflict => "E043"
  | tableInconsistent => "E044" | internalParserError => "E049" | malformedLine => "E060"
  | unknownCategory => "E061" | listingAccess => "E062" | directoryRead => "E080"
  | noFilesFound => "E081" | tooManyFiles => "E082" | completed => "I001" | initialized => "I004"
  | fileLoaded => "I006" | fileValidated => "I007" | scanned => "I020" | scannedCleanly => "I021"
  | inputAccepted => "I040" | tableVerified => "I041" | listingWritten => "I060"
  | listingLoaded => "I061" | batchCompleted => "I080"

/-- The code written `s`. -/
def ofText? (s : String) : Option Code := all.find? (·.text == s)

theorem ofText?_text (c : Code) : ofText? c.text = some c := by cases c <;> decide +kernel

/-- A code that tells of a success. -/
def success (category description : String) : CodeInfo :=
  ⟨category, .low, true, false, description, "No action required"⟩

/-- What is known of each code. -/
def info : Code → CodeInfo
  | internalError =>
    ⟨"System", .critical, false, true, "Critical internal system error",
      "Contact system administrator or file bug report"⟩
  | initializationFailure =>
    ⟨"System", .critical, false, true, "System initialization failure",
      "Check system configuration and dependencies"⟩
  | configuration =>
    ⟨"Configuration", .high, false, true, "Runtime configuration could not be loaded",
      "Check the preferences file path and its TOML syntax"⟩
  | fileNotFound =>
    ⟨"FileProcessing", .medium, false, false, "Source file not found",
      "Verify the file path exists and is accessible"⟩
  | invalidExtension =>
    ⟨"FileProcessing", .medium, true, false, "File does not have a recognized source extension",
      "Use a .java or .txt file or disable the extension requirement"⟩
  | fileTooLarge =>
    ⟨"FileProcessing", .high, false, false, "File exceeds the maximum allowed size",
      "Split the source into smaller files"⟩
  | permissionDenied =>
    ⟨"FileProcessing", .high, false, false, "Permission denied reading file",
      "Check file permissions"⟩
  | invalidEncoding =>
    ⟨"FileProcessing", .medium, false, false, "File is not valid UTF-8",
      "Convert the file to UTF-8 encoding"⟩
  | readFailure =>
    ⟨"FileProcessing", .high, false, false, "I/O error while reading file",
      "Check disk and file system health"⟩
  | invalidPath =>
    ⟨"FileProcessing", .medium, false, false, "Invalid file path",
      "Provide a path to a regular file"⟩
  | tooManyLines =>
    ⟨"FileProcessing", .medium, false, false, "File exceeds the maximum line count for analysis",
      "Split the source into smaller files"⟩
  | invalidLexeme =>
    ⟨"Lexical", .medium, true, false, "Character run matches no lexical rule",
      "Remove or replace the unrecognized characters"⟩
  | unterminatedString =>
    ⟨"Lexical", .medium, true, false, "String literal not closed before end of line",
      "Add the closing double quote on the same line"⟩
  | unterminatedComment =>
    ⟨"Lexical", .medium, true, false, "Block comment not closed before end of input",
      "Add the closing */ delimiter"⟩
  | terminalMismatch =>
    ⟨"Syntax", .high, false, true, "Expected terminal does not match the input symbol",
      "Insert or correct the expected symbol at the reported position"⟩
  | noProduction =>
    ⟨"Syntax", .high, false, true,
      "No production for the non-terminal under the current lookahead",
      "Check the statement structure around the reported symbol"⟩
  | stackDepth =>
    ⟨"Syntax", .high, false, true, "Parse stack exceeded the configured depth limit",
      "Reduce nesting or raise max_stack_depth"⟩
  | tableConflict =>
    ⟨"Grammar", .critical, false, true, "Parse table has two productions for one entry",
      "Fix the grammar rules so every entry is unique"⟩
  | tableInconsistent =>
    ⟨"Grammar", .critical, false, true,
      "Parse table entry is not predicted by FIRST of its production",
      "Fix the lookahead set of the reported rule"⟩
  | internalParserError =>
    ⟨"Syntax", .critical, false, true, "Internal parser state error",
      "File bug report with the input that triggered it"⟩
  | malformedLine =>
    ⟨"Listing", .medium, false, false, "Token listing line is malformed",
      "Regenerate the listing with --tokens-out"⟩
  | unknownCategory =>
    ⟨"Listing", .medium, false, false, "Token listing names an unknown category",
      "Regenerate the listing with --tokens-out"⟩
  | listingAccess =>
    ⟨"Listing", .high, false, false, "Token listing could not be read or written",
      "Check the listing path and permissions"⟩
  | directoryRead =>
    ⟨"Batch", .medium, false, false, "Directory could not be read",
      "Check the directory path and permissions"⟩
  | noFilesFound =>
    ⟨"Batch", .low, true, false, "No source files found",
      "Check the directory contents and extension filter"⟩
  | tooManyFiles =>
    ⟨"Batch", .medium, true, false, "Too many files for one batch",
      "Use --max-files or split the directory"⟩
  | completed => success "System" "Operation completed successfully"
  | initialized => success "System" "System initialization completed"
  | fileLoaded => success "FileProcessing" "File processed successfully"
  | fileValidated => success "FileProcessing" "File validation passed"
  | scanned => success "Lexical" "Tokenization completed"
  | scannedCleanly => success "Lexical" "Source scanned without lexical errors"
  | inputAccepted => success "Syntax" "Token stream accepted by the grammar"
  | tableVerified => success "Grammar" "Parse table verified deterministic and consistent"
  | listingWritten => success "Listing" "Token listing written"
  | listingLoaded => success "Listing" "Token listing loaded"
  | batchCompleted => success "Batch" "Batch processing completed"

end Code

namespace CodeInfo

/-- What is taken for known of a code outside the list. -/
def unlisted : CodeInfo :=
  ⟨"Unknown", .medium, true, false, "Unknown error", "No specific action available"⟩

/-- What is known of the code written `s`. -/
def ofText (s : String) : CodeInfo := ((Code.ofText? s).map Code.info).getD unlisted

end CodeInfo

end Lookahead
