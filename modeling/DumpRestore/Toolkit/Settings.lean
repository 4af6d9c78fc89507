/-
This file defines the settings of a toolkit and what they mean: the login of a new connection, the
order of tables, and where the log goes. A setting that is missing, empty or zero gives way to its
default.
-/

import DumpRestore.Connection.Modes
import DumpRestore.Number.Decimal
import DumpRestore.Table.Order

namespace DumpRestore

/-- The settings of a toolkit, null where they are missing, and the connection it is to use where it
is given one. -/
structure Settings where
  user : Value := .null
  password : Value := .null
  host : Value := .null
  port : Value := .null
  socket : Value := .null
  sslDisabled : Value := .null
  database : Value := .null
  charset : Value := .null
  databaseType : Value := .null
  tablePrefix : Value := .null
  coreTables : CoreSource := .absent
  logFile : Value := .null
  quiet : Value := .null
  connection : Subject := .absent

namespace Settings

/-! ### Defaults -/

/-- The text of a setting, where it is given. -/
def given? (setting : Value) : Option Text :=
  if setting.isTruthy then some setting.toText else none

/-- The text of a setting, or a default. -/
def textOr (setting : Value) (fallback : Text) : Text :=
  (given? setting).getD fallback

/-- The type of the database. -/
def databaseTypeText (settings : Settings) : Text :=
  textOr settings.databaseType TableOrder.wordPress

/-- The prefix of table names. It may be empty. -/
def tablePrefixText (settings : Settings) : Text :=
  match settings.tablePrefix with
  | .null => "wp_"
  | value => value.toText

/-- The order of tables. -/
def tableOrder (settings : Settings) : TableOrder :=
  TableOrder.ofSource settings.databaseTypeText settings.tablePrefixText settings.coreTables

/-! ### Login -/

/-- The port that a text stands for; `literal` is how it is told. -/
def portOfText (literal text : Text) : Except PortFlaw Int :=
  (Text.readInt text).mapError fun
    | .malformed => .noInteger literal
    | .tooLong digits => .tooLong digits

/-- The port that bytes stand for. Only ASCII is read, and only so many bytes are told as there may
be characters in a literal. -/
def portOfBytes (content : List UInt8) : Except PortFlaw Int :=
  let literal := Text.quotedBytes (content.take PortFlaw.literalLimit)
  match Text.ofAscii? content with
  | some text => portOfText literal text
  | none => .error (.noInteger literal)

/-- The port that a number stands for, cut to an integer. -/
def portOfNumber : Binary64 → Except PortFlaw Int
  | .undefined => .error .undefined
  | number => match number.truncate? with
    | some port => .ok port
    | none => .error .infinite

/-- The port that a setting stands for, the usual one where it is missing, empty or zero. -/
def portNumber (setting : Value) : Except PortFlaw Int :=
  if setting.isTruthy then
    match setting with
    | .int number => .ok number
    | .decimal digits => portOfNumber ((Binary64.read? digits).getD .undefined)
    | .text content => portOfText setting.literal content
    | .bytes content | .buffer content => portOfBytes content
    | .list _ => .error .list
    | .bool _ | .null => .ok 1
  else .ok 3306

/-- The login of a new connection. A user and a database have to be given, and the port has to be a
number even where a socket is used. -/
def login (settings : Settings) : Except Fault Login :=
  match given? settings.user, given? settings.database with
  | none, _ => .error .missingUser
  | _, none => .error .missingDatabase
  | some user, some database =>
    ((portNumber settings.port).mapError Fault.invalidPort).map fun port =>
      { user
        password := given? settings.password
        database
        charset := textOr settings.charset "utf8mb4"
        sslDisabled := settings.sslDisabled.isTruthy
        address := match given? settings.socket with
          | some path => .socket path
          | none => .network (textOr settings.host "localhost") port }

end Settings

end DumpRestore
