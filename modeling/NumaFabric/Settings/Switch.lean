import NumaFabric.Settings.Environment

namespace NumaFabric.Settings

def yesWords : List String := ["1", "true", "on", "yes"]

def isTruthy (text : String) : Bool := yesWords.contains (text.map Char.toLower)

def Variables.isOn (vars : Variables) (name : String) : Bool := (vars.get? name).any isTruthy

end NumaFabric.Settings
