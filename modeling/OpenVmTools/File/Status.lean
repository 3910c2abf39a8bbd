import OpenVmTools.File.FileSystem

/-!
# Status messages and `FileIO_CloseAndUnlink`

Two small entry points of `fileIO.c`.

`FileIO_MsgError` maps a status to a message of the `Msg` module, written
`MSGID(id) "English text"`, and `FileIO_ErrorEnglish` strips the id. On `FILEIO_ERROR_LAST`
it stops in `NOT_IMPLEMENTED()`.

`FileIO_CloseAndUnlink` is `FileIO_Close(fd) || File_Unlink(path)`: when `FileIO_Close` fails,
the `||` skips the unlink.
-/
namespace OpenVmTools

variable {σ : Type}

/-! ## `FileIO_MsgError` -/

/-- A message of the `Msg` module, `MSGID(id) "text"`: its id and its English text. -/
structure Message where
  id : String
  english : String
  deriving DecidableEq, Repr

/-- `FileIO_MsgError`; `none` for `FILEIO_ERROR_LAST`, where it stops in `NOT_IMPLEMENTED()`. -/
def fileIOMsgError : FileIOResult → Option Message
  | .success => some ⟨"fileio.success", "Success"⟩
  | .cancelled => some ⟨"fileio.cancel", "The operation was canceled by the user"⟩
  | .error => some ⟨"fileio.generic", "Error"⟩
  | .openErrorExist => some ⟨"fileio.exists", "The file already exists"⟩
  | .lockFailed => some ⟨"fileio.lock", "Failed to lock the file"⟩
  | .readErrorEof => some ⟨"fileio.eof", "Tried to read beyond the end of the file"⟩
  | .fileNotFound => some ⟨"fileio.notfound", "Could not find the file"⟩
  | .noPermission => some ⟨"fileio.noPerm", "Insufficient permission to access the file"⟩
  | .fileNameTooLong => some ⟨"fileio.namelong", "The file name is too long"⟩
  | .writeErrorFbig => some ⟨"fileio.fBig", "The file is too large"⟩
  | .writeErrorNospc => some ⟨"fileio.noSpc", "There is no space left on the device"⟩
  | .writeErrorDquot => some ⟨"fileio.dQuot", "There is no space left on the device"⟩
  | .errorLast => none

/-- `FileIO_ErrorEnglish`: `Msg_StripMSGID` of the message, its English text. -/
def fileIOErrorEnglish (status : FileIOResult) : Option String :=
  (fileIOMsgError status).map Message.english

/-! ## `FileIO_CloseAndUnlink` -/

/-- `FileIO_CloseAndUnlink(fd)`: `FileIO_Close(fd) || File_Unlink(path)` with `path` the name
the descriptor had; `TRUE` when an error occurred. `unlinkOk` is the outcome of `File_Unlink`,
modelled from the spec (lib/file, outside src/), which fails on a `NULL` name. -/
def fileIOCloseAndUnlink (ops : FileLockOps σ) (unlinkOk : Bool) (w : World σ)
    (fd : FileIODescriptor) : Bool × World σ × FileIODescriptor :=
  let c := fileIOClose ops fd w.locks
  if c.1 then (true, ⟨w.fs, c.2.2⟩, c.2.1)
  else match fd.fileName with
    | some path => (!unlinkOk, ⟨posixUnlink unlinkOk w.fs path, c.2.2⟩, c.2.1)
    | none => (true, ⟨w.fs, c.2.2⟩, c.2.1)

end OpenVmTools
