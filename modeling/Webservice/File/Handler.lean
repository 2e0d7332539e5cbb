import Mathlib.Data.List.Infix

/-!
# `file_request_handler`

The handler answers a request with a file below its document root.  A
`std::string` is the list of its characters here, each of which is a byte.
The file system is a parameter: what `file_body::value_type::open()` does with
a path.
-/

namespace Webservice

inductive HttpVerb where
  | get
  | head
  | other (name : String)
  deriving DecidableEq

/-- What the handler reads of a request. -/
structure FileRequest where
  method : HttpVerb
  target : List Char
  version : Nat
  keepAlive : Bool
  deriving DecidableEq

/-- How `body.open(path, file_mode::scan, ec)` ends. -/
inductive OpenResult where
  | opened (content : List UInt8)
  /-- `errc::no_such_file_or_directory` -/
  | noSuchFile
  /-- Any other error, by its message. -/
  | failed (message : List Char)
  deriving DecidableEq

abbrev FileSystem := List Char → OpenResult

/-- The body that a response object holds. -/
inductive FileBody where
  | empty
  | string (text : List Char)
  | file (content : List UInt8)
  deriving DecidableEq

def FileBody.size : FileBody → Nat
  | .empty => 0
  | .string text => text.length
  | .file content => content.length

structure FileResponse where
  status : Nat
  version : Nat
  contentType : List Char
  contentLength : Nat
  keepAlive : Bool
  body : FileBody
  deriving DecidableEq

/-! ## Paths -/

/-- The string that `c_str()` shows to the operating system. -/
def cStr (text : List Char) : List Char :=
  text.takeWhile (· ≠ Char.ofNat 0)

/-- `result` without the slash at its end. -/
def withoutSlash (result : List Char) : List Char :=
  if result.getLast? = some '/' then result.dropLast else result

def pathConcat (base path : List Char) : List Char :=
  if base = [] then path else withoutSlash base ++ path

/-- The entries of the map in `mime_type`. -/
def mimeTypes : List (List Char × List Char) :=
  [(".htm".toList, "text/html".toList),
    (".html".toList, "text/html".toList),
    (".php".toList, "text/html".toList),
    (".css".toList, "text/css".toList),
    (".txt".toList, "text/plain".toList),
    (".js".toList, "application/javascript".toList),
    (".json".toList, "application/json".toList),
    (".xml".toList, "application/xml".toList),
    (".swf".toList, "application/x-shockwave-flash".toList),
    (".flv".toList, "video/x-flv".toList),
    (".png".toList, "image/png".toList),
    (".jpe".toList, "image/jpeg".toList),
    (".jpeg".toList, "image/jpeg".toList),
    (".jpg".toList, "image/jpeg".toList),
    (".gif".toList, "image/gif".toList),
    (".bmp".toList, "image/bmp".toList),
    (".ico".toList, "image/vnd.microsoft.icon".toList),
    (".tiff".toList, "image/tiff".toList),
    (".tif".toList, "image/tiff".toList),
    (".svg".toList, "image/svg+xml".toList),
    (".svgz".toList, "image/svg+xml".toList)]

/-- The path from its last dot on. -/
def extension (path : List Char) : List Char :=
  if '.' ∈ path then
    '.' :: (path.reverse.takeWhile (· ≠ '.')).reverse
  else []

/-- The map compares its keys with `iless`. -/
def mimeType (path : List Char) : List Char :=
  let ext := (extension path).map Char.toLower
  ((mimeTypes.find? fun entry => entry.1.map Char.toLower == ext).map
    Prod.snd).getD "application/text".toList

/-! ## Responses -/

/-- The response builders of `http_request_handler`. -/
def stringResponse (status : Nat) (req : FileRequest) (text : List Char) :
    FileResponse :=
  { status := status
    version := req.version
    contentType := "text/html".toList
    contentLength := text.length
    keepAlive := req.keepAlive
    body := .string text }

def badRequest (req : FileRequest) (why : List Char) : FileResponse :=
  stringResponse 400 req why

def notFound (req : FileRequest) (target : List Char) : FileResponse :=
  stringResponse 404 req
    ("The resource '".toList ++ target ++ "' was not found.".toList)

def serverError (req : FileRequest) (what : List Char) : FileResponse :=
  stringResponse 500 req ("An error occurred: '".toList ++ what ++ "'".toList)

/-- What the handler does with a request: the path it opens, if it comes to
that, and the response it sends. -/
structure Served where
  opens : Option (List Char)
  response : FileResponse
  deriving DecidableEq

structure FileRequestHandler where
  docRoot : List Char

namespace FileRequestHandler

def withPath (handler : FileRequestHandler) (target : List Char) :
    List Char :=
  let path := pathConcat handler.docRoot target
  if target.getLast? = some '/' then path ++ "index.html".toList else path

def isUnknownHttpMethod (req : FileRequest) : Bool :=
  req.method != .get && req.method != .head

def isIllegalRequestTarget (req : FileRequest) : Bool :=
  req.target.isEmpty || req.target.head? != some '/' ||
    decide (['.', '.'] <:+: req.target)

def onFileNotFound (req : FileRequest) : FileResponse :=
  notFound req req.target

def sendBody (req : FileRequest) (content : List UInt8)
    (mimeType : List Char) : FileResponse :=
  let size := content.length
  if req.method = .head then
    { status := 200
      version := req.version
      contentType := mimeType
      contentLength := size
      keepAlive := req.keepAlive
      body := .empty }
  else
    { status := 200
      version := req.version
      contentType := mimeType
      contentLength := size
      keepAlive := req.keepAlive
      body := .file content }

/-- `file_request_handler::operator()` -/
def serve (handler : FileRequestHandler) (fileSystem : FileSystem)
    (req : FileRequest) : Served :=
  if isUnknownHttpMethod req then
    { opens := none
      response := badRequest req "Unknown HTTP-method".toList }
  else if isIllegalRequestTarget req then
    { opens := none
      response := badRequest req "Illegal request-target".toList }
  else
    let path := handler.withPath req.target
    { opens := some (cStr path)
      response :=
        match fileSystem (cStr path) with
        | .noSuchFile => onFileNotFound req
        | .failed message => serverError req message
        | .opened content => sendBody req content (mimeType path) }

end FileRequestHandler

end Webservice
