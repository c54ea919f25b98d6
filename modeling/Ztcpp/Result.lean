import Ztcpp.Library.Narrowing
import Ztcpp.Libzt

/-!
# Results and error reports

`Result<T>` holds a value or an owned `ErrorReport`.  Most functions of the
library end in one of a few chains of comparisons over the integer that libzt
returned; each chain is defined here once, with the message texts that vary
as parameters.
-/

namespace Ztcpp

inductive ErrorCode where
  | genericError
  | runtimeError
  | argumentError
  | socketError
  | serviceError
  deriving DecidableEq

/-- The enumerator's spelling, which the preprocessor puts into messages. -/
def ErrorCode.name : ErrorCode → String
  | .genericError => "GenericError"
  | .runtimeError => "RuntimeError"
  | .argumentError => "ArgumentError"
  | .socketError => "SocketError"
  | .serviceError => "ServiceError"

structure ErrorReport where
  errorCode : ErrorCode
  message : String
  deriving DecidableEq

abbrev Result (α : Type) := Except ErrorReport α

namespace Result

variable {α β : Type}

def hasError : Result α → Bool
  | .ok _ => false
  | .error _ => true

def errorCode? : Result α → Option ErrorCode
  | .ok _ => none
  | .error report => some report.errorCode

@[simp] theorem hasError_ok (a : α) : hasError (.ok a : Result α) = false := rfl

@[simp] theorem hasError_error (r : ErrorReport) : hasError (.error r : Result α) = true := rfl

end Result

abbrev EmptyResult := Result Unit

def emptyResultOK : EmptyResult := .ok ()

section

variable [Platform] {α : Type}

/-- The macro `ZTCPP_ERROR_REPORT`, expanded in the function `function`. -/
def ztcppErrorReport (code : ErrorCode) (message function : String) : ErrorReport where
  errorCode := code
  message := "ZTCpp:" ++ code.name ++ " - \"" ++ message ++ "\" in function: " ++
    prettyFunction function

/-- `"<name> (zts_errno=<zts_errno>)"`, the text for a code with a name. -/
def namedCodeText (name : String) (status : Status) : String :=
  name ++ " (zts_errno=" ++ toString status.errno ++ ")"

/-- The error exits that follow the test for success in most functions of
`Socket.cpp`: three codes by name, then everything else. -/
def ztsErrorReport (function callee : String) (status : Status) : ErrorReport :=
  if status.res = ztsErrSocket then
    ztcppErrorReport .socketError (namedCodeText "ZTS_ERR_SOCKET" status) function
  else if status.res = ztsErrService then
    ztcppErrorReport .serviceError (namedCodeText "ZTS_ERR_SERVICE" status) function
  else if status.res = ztsErrArg then
    ztcppErrorReport .argumentError (namedCodeText "ZTS_ERR_ARG" status) function
  else
    ztcppErrorReport .genericError ("Unknown error (" ++ callee ++ " returned " ++
      toString status.res ++ ", zts_errno= " ++ toString status.errno ++ ")") function

def statusResult (function callee : String) (status : Status) (value : α) : Result α :=
  if status.res = ztsErrOk then .ok value else .error (ztsErrorReport function callee status)

def receivedResult (function callee : String) (status : Status) : Result UInt64 :=
  if 0 < status.res then .ok (UInt64.ofNat status.res.toNat)
  else .error (ztsErrorReport function callee status)

def castSsize (size : UInt64) : ℤ := (size.toNat : ℤ).bmod (2 ^ ssizeBits)

theorem castSsize_eq_narrow (size : UInt64) :
    castSsize size = Narrowing.narrow (ssizeBits - 1) size.toNat := by
  rw [castSsize, Narrowing.narrow]
  rcases Platform.ssizeBits_eq with hbits | hbits
  · rw [hbits]
  · rw [hbits]

theorem castSsize_eq_iff {size : UInt64} :
    castSsize size = size.toNat ↔ size.toNat < 2 ^ (ssizeBits - 1) := by
  rw [castSsize_eq_narrow]
  exact Narrowing.narrow_natCast_eq_iff

/-- Success when the count is the size after a cast to the count's type, else
the exits of `ztsErrorReport`. -/
def sentResult (function callee : String) (status : Status) (size : UInt64) : Result UInt64 :=
  if status.res = castSsize size then .ok size
  else .error (ztsErrorReport function callee status)

@[simp] theorem statusResult_eq_ok {function callee : String} {status : Status} {value a : α} :
    statusResult function callee status value = .ok a ↔ status.res = ztsErrOk ∧ value = a := by
  unfold statusResult
  split <;> simp_all

@[simp] theorem hasError_statusResult {function callee : String} {status : Status} {value : α} :
    (statusResult function callee status value).hasError = false ↔ status.res = ztsErrOk := by
  unfold statusResult
  split <;> simp_all

end

end Ztcpp
