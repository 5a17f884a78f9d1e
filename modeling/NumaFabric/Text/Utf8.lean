namespace NumaFabric.Text

def utf8Encode (s : String) : List UInt8 := s.toUTF8.toList

/-- The text that the bytes encode; bytes that are not well-formed UTF-8 have none. -/
def utf8Decode? (bytes : List UInt8) : Option String := String.fromUTF8? ⟨bytes.toArray⟩

end NumaFabric.Text
