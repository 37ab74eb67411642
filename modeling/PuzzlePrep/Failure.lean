import PuzzlePrep.Files.Fault
import PuzzlePrep.Table.Basic

namespace PuzzlePrep

inductive Failure.Kind
  | config
  | fetch
  | dataset
  | routine
  | launch
  | io
  | serialization
  | http
  | arrow
  | parquet
  | notFound
  | invalidInput
  | timeout
  deriving DecidableEq, Repr, Inhabited

inductive HttpFault
  | unusableUrl (url : Option String)
  | notSent (url : String)
  | status (code : Nat) (url : String)
  | cutShort (url : String)
  deriving DecidableEq, Repr, Inhabited

inductive Failure
  | unknownSplit (text : String)
  | emptyPartition
  | nestedPartition (name : String)
  | noMergeSources
  | mergeIntoSource (name : String)
  | blankBaseUrl
  | badConfig
  | cannotOpen (path : String) (fault : Fault)
  | typeConflict (column : String) (first second : ColumnType)
  | noInput (path : String)
  | noProcessedData (path : String)
  | notStarted (kind : Failure.Kind) (program : String) (fault : Fault)
  | scriptFailed (script : String) (status : String) (complaint : String)
  | scriptTooSlow (script : String) (seconds : Nat)
  | trainerFailed (module : String) (status : String)
  | routine (reason : String)
  | io (fault : Fault)
  | http (fault : HttpFault)
  | rowsDoNotFit
  | brokenList
  | notATable
  | notStorable
  deriving DecidableEq

namespace Failure

def Kind.label : Kind → String
  | .config => "Configuration error"
  | .fetch => "Fetch error"
  | .dataset => "Dataset error"
  | .routine => "Preprocessing routine error"
  | .launch => "Launcher error"
  | .io => "IO error"
  | .serialization => "Serialization error"
  | .http => "HTTP error"
  | .arrow => "Arrow error"
  | .parquet => "Parquet error"
  | .notFound => "Not found"
  | .invalidInput => "Invalid input"
  | .timeout => "Timeout"

def Kind.describe (k : Kind) (detail : String) : String := k.label ++ ": " ++ detail

def kind : Failure → Kind
  | .unknownSplit _ | .emptyPartition | .nestedPartition _ => .invalidInput
  | .noMergeSources | .mergeIntoSource _ | .blankBaseUrl | .badConfig => .config
  | .cannotOpen .. | .typeConflict .. => .dataset
  | .noInput _ | .noProcessedData _ => .notFound
  | .notStarted kind .. => kind
  | .scriptFailed .. | .routine _ => .routine
  | .scriptTooSlow .. => .timeout
  | .trainerFailed .. => .launch
  | .io _ => .io
  | .http _ => .http
  | .rowsDoNotFit | .brokenList => .arrow
  | .notATable | .notStorable => .parquet

end Failure

def HttpFault.reasonPhrase (code : Nat) : String :=
  match code with
  | 400 => "Bad Request"
  | 401 => "Unauthorized"
  | 402 => "Payment Required"
  | 403 => "Forbidden"
  | 404 => "Not Found"
  | 405 => "Method Not Allowed"
  | 406 => "Not Acceptable"
  | 407 => "Proxy Authentication Required"
  | 408 => "Request Timeout"
  | 409 => "Conflict"
  | 410 => "Gone"
  | 411 => "Length Required"
  | 412 => "Precondition Failed"
  | 413 => "Payload Too Large"
  | 414 => "URI Too Long"
  | 415 => "Unsupported Media Type"
  | 416 => "Range Not Satisfiable"
  | 417 => "Expectation Failed"
  | 418 => "I'm a teapot"
  | 421 => "Misdirected Request"
  | 422 => "Unprocessable Entity"
  | 423 => "Locked"
  | 424 => "Failed Dependency"
  | 425 => "Too Early"
  | 426 => "Upgrade Required"
  | 428 => "Precondition Required"
  | 429 => "Too Many Requests"
  | 431 => "Request Header Fields Too Large"
  | 451 => "Unavailable For Legal Reasons"
  | 500 => "Internal Server Error"
  | 501 => "Not Implemented"
  | 502 => "Bad Gateway"
  | 503 => "Service Unavailable"
  | 504 => "Gateway Timeout"
  | 505 => "HTTP Version Not Supported"
  | 506 => "Variant Also Negotiates"
  | 507 => "Insufficient Storage"
  | 508 => "Loop Detected"
  | 510 => "Not Extended"
  | 511 => "Network Authentication Required"
  | _ => ""

def HttpFault.message : HttpFault → String
  | .unusableUrl none => "builder error"
  | .unusableUrl (some url) => "builder error for url (" ++ url ++ ")"
  | .notSent url => "error sending request for url (" ++ url ++ ")"
  | .status code url =>
    "HTTP status " ++ (if code < 500 then "client" else "server") ++ " error (" ++ toString code ++
      " " ++ reasonPhrase code ++ ") for url (" ++ url ++ ")"
  | .cutShort url => "error decoding response body for url (" ++ url ++ ")"

namespace Failure

def detail : Failure → String
  | .unknownSplit text => "unknown split '" ++ text ++ "' (expected train, test or validation)"
  | .emptyPartition => "partition name is empty"
  | .nestedPartition name => "partition name '" ++ name ++ "' must be a single path segment"
  | .noMergeSources => "merge.sources must not be empty"
  | .mergeIntoSource name => "merge.output '" ++ name ++ "' cannot also be a merge source"
  | .blankBaseUrl => "fetch.base_url must not be empty"
  | .badConfig => "unreadable configuration"
  | .cannotOpen path fault => "Failed to open " ++ path ++ ": " ++ fault.message
  | .typeConflict column first second =>
    "column '" ++ column ++ "' has conflicting types: " ++ first.text ++ " vs " ++ second.text
  | .noInput path => "Input file not found: " ++ path
  | .noProcessedData path => "Processed data missing: " ++ path ++ " (run the pipeline first)"
  | .notStarted _ program fault => "Failed to spawn " ++ program ++ ": " ++ fault.message
  | .scriptFailed script status complaint =>
    script ++ " failed (" ++ status ++ "): " ++ complaint
  | .scriptTooSlow script seconds =>
    script ++ " timed out after " ++ toString seconds ++ "s"
  | .trainerFailed module status => module ++ " exited with " ++ status
  | .routine reason => reason
  | .io fault => fault.message
  | .http fault => fault.message
  | .rowsDoNotFit => "rows do not fit the columns"
  | .brokenList => "a list cannot be put together"
  | .notATable => "not a table file"
  | .notStorable => "columns that no file can hold"

def message (f : Failure) : String := f.kind.describe f.detail

end Failure

end PuzzlePrep
