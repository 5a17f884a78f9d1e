import NumaFabric.Settings.Value

namespace NumaFabric.Settings

def wrappedKey : String := "___figment_value_value"

def markKey : String := "___figment_value_id"

mutual

/-- The value without its wrapping, and without that of all values in it. -/
def Value.unwrap? : Value → Option Value
  | .list items => (unwrapItems? items).map .list
  | .table fields =>
    match unwrapFields? fields with
    | none => none
    | some fields =>
      if (fields.lookup markKey).isSome then none
      else some ((fields.lookup wrappedKey).getD (.table fields))
  | v => some v

def unwrapItems? : List Value → Option (List Value)
  | [] => some []
  | v :: rest =>
    match v.unwrap?, unwrapItems? rest with
    | some v, some rest => some (v :: rest)
    | _, _ => none

def unwrapFields? : List (String × Value) → Option (List (String × Value))
  | [] => some []
  | (key, v) :: rest =>
    match v.unwrap?, unwrapFields? rest with
    | some v, some rest => some ((key, v) :: rest)
    | _, _ => none

end

end NumaFabric.Settings
