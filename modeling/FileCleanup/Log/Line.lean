import FileCleanup.Json.Text
import FileCleanup.Log

namespace FileCleanup

/-! Events as lines of a log. -/

namespace LogEvent

/-- Level, target, message and fields, each field after its name. -/
def line (event : LogEvent) : String :=
  " ".intercalate (event.level.name :: (event.target ++ ":") :: event.message ::
    event.fields.map fun (name, value) => name ++ "=" ++ value.shown)

end LogEvent

namespace LogValue

def json : LogValue → List Char
  | .text words => Json.stringText words.toList
  | value => value.shown.toList

end LogValue

namespace LogEvent

def jsonMember (name : String) (value : List Char) : List Char :=
  Json.stringText name.toList ++ ':' :: value

def jsonObject (members : List (List Char)) : List Char :=
  '\x7b' :: [','].intercalate members ++ ['\x7d']

/-- A JSON object on one line; the message is the first of the fields. -/
def jsonLine (event : LogEvent) : String :=
  String.ofList (jsonObject [
    jsonMember "level" (Json.stringText event.level.name.toList),
    jsonMember "fields" (jsonObject
      (jsonMember "message" (Json.stringText event.message.toList) ::
        event.fields.map fun (name, value) => jsonMember name value.json)),
    jsonMember "target" (Json.stringText event.target.toList)])

end LogEvent

end FileCleanup
