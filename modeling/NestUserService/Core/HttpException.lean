import NestUserService.Core.Db

/-!
# HttpExceptionFilter

The one exception filter of the application. A Nest HTTP exception is answered with its
own status and body, and everything else with one fixed body.
-/

namespace NestUserService.Core

/-- The JSON body of an error response; a plain error has no `error` field. -/
structure ErrorBody where
  message : String
  error : Option String
  statusCode : Option Nat
  deriving DecidableEq

structure ErrorResponse where
  status : Nat
  body : ErrorBody
  deriving DecidableEq

namespace Exn

/-- `exception instanceof HttpException`. -/
def isHttp : Exn → Bool
  | .unauthorized _ => true
  | .forbidden _ => true
  | .badRequest _ => true
  | .notFound _ => true
  | .notAcceptable _ => true
  | _ => false

/-- `getStatus`. -/
def getStatus : Exn → Nat
  | .unauthorized _ => 401
  | .forbidden _ => 403
  | .badRequest _ => 400
  | .notFound _ => 404
  | .notAcceptable _ => 406
  | _ => 500

/-- The `error` text that Nest puts into the body of an exception with a message. -/
def description : Exn → Option String
  | .unauthorized _ => some "Unauthorized"
  | .forbidden _ => some "Forbidden"
  | .badRequest _ => some "Bad Request"
  | .notFound _ => some "Not Found"
  | .notAcceptable _ => some "Not Acceptable"
  | _ => none

def message : Exn → String
  | .unauthorized m => m
  | .forbidden m => m
  | .badRequest m => m
  | .notFound m => m
  | .notAcceptable m => m
  | .typeError m => m
  | .prisma code => code
  | .prismaValidation => ""
  | .error m => m

/-- `getResponse`. -/
def getResponse (e : Exn) : ErrorBody := ⟨e.message, e.description, some e.getStatus⟩

end Exn

def internalServerError : ErrorResponse := ⟨500, ⟨"Internal Server Error", none, none⟩⟩

/-- `HttpExceptionFilter.catch`. -/
def httpExceptionFilter (exception : Exn) : ErrorResponse :=
  if exception.isHttp then ⟨exception.getStatus, exception.getResponse⟩ else internalServerError

/-- What is not an HTTP exception is not shown. -/
theorem filter_of_not_http {e : Exn} (h : e.isHttp = false) :
    httpExceptionFilter e = internalServerError := by
  simp [httpExceptionFilter, h]

end NestUserService.Core
