import DeviceAdmission.Database.Fault
import DeviceAdmission.Database.Record

/-!
# Headers of database files

A database file begins with a header: a mark, the size of its pages, who may read and write it, and
how many pages there are. The header decides whether the file can be used as it is asked for; the
first thing that is wrong counts. Bytes behind the end of a file count as zeros.
-/

namespace DeviceAdmission.Database

/-- How the file of a database may be used. -/
structure FileUse where
  /-- Whether nothing may be written. -/
  readOnly : Bool
  /-- Whether what is written can be kept in a log. -/
  keepsLog : Bool
  /-- Whether nobody else ever changes the file, so that a log is not looked for. -/
  unchanging : Bool
  /-- How many bytes the name of the file has. -/
  nameLength : Nat
  deriving DecidableEq, Repr

namespace Header

/-- What every database begins with. -/
def mark : Bytes := Utf8.encode "SQLite format 3" ++ [0]

/-- The size of a page. The greatest one does not fit its field and is written as 1. -/
def pageSize (contents : Bytes) : Nat :=
  byteAt contents 16 * 256 + byteAt contents 17 * 65536

def pageSizes : List Nat := [512, 1024, 2048, 4096, 8192, 16384, 32768, 65536]

/-- A database that keeps a log says so where it tells who can read it. -/
def isLogged (contents : Bytes) : Bool :=
  byteAt contents 19 = 2

/-- A name of the host has at most this many bytes. -/
def longestName : Nat := 255

/-- How many bytes the names of the log and of its index have beyond the name of the database. -/
def logSuffixLength : Nat := 4

/-- The number of pages that a file of some length takes. -/
def pagesIn (length size : Nat) : Nat :=
  (length + size - 1) / size

/-- The number of pages that the header tells of, if whoever wrote it last kept it right. -/
def toldPages? (contents : Bytes) : Option Nat :=
  let told := numberAt contents 28 4
  if told ≠ 0 ∧ numberAt contents 24 4 = numberAt contents 92 4 then some told else none

/-- Check the header of a file that is not empty. -/
def check (use : FileUse) (contents : Bytes) : Except Problem Unit :=
  let size := pageSize contents
  if !mark.isPrefixOf contents then .error .notDatabase
  else if byteAt contents 19 > 2 then .error .notDatabase
  else if isLogged contents && !use.unchanging &&
      (!use.keepsLog || use.nameLength + logSuffixLength > longestName) then
    .error .unopenable
  else if byteAt contents 21 ≠ 64 ∨ byteAt contents 22 ≠ 32 ∨ byteAt contents 23 ≠ 32 then
    .error .notDatabase
  else if !pageSizes.contains size then .error .notDatabase
  else if (toldPages? contents).any (pagesIn contents.length size < ·) then .error .malformed
  else if size < byteAt contents 20 + 480 then .error .notDatabase
  else if numberAt contents 44 4 % 256 > 4 then .error .formatUnsupported
  else .ok ()

end Header

end DeviceAdmission.Database
