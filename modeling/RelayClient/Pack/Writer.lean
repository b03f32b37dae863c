import RelayClient.Pack.Head

/-!
# Writing packed values

A value is its head followed by its content. Text that is not UTF-8 goes out as
binary, since a frame's text must be readable as text.
-/

namespace RelayClient.Pack.Value

mutual

def encode : Value → Bytes
  | .nil => Head.write .nil
  | .bool flag => Head.write (.bool flag)
  | .int number => Head.write (.int number)
  | .single bits => Head.write (.single bits)
  | .double bits => Head.write (.double bits)
  | .text content => Head.write (.text (Text.utf8 content).length) ++ Text.utf8 content
  | .brokenText bytes => Head.write (.binary bytes.length) ++ bytes
  | .binary bytes => Head.write (.binary bytes.length) ++ bytes
  | .list items => Head.write (.list items.length) ++ encodeItems items
  | .map entries => Head.write (.map entries.length) ++ encodeEntries entries
  | .ext tag bytes => Head.write (.ext bytes.length) ++ tag.toUInt8 :: bytes

def encodeItems : List Value → Bytes
  | [] => []
  | item :: rest => encode item ++ encodeItems rest

def encodeEntries : List (Value × Value) → Bytes
  | [] => []
  | (key, value) :: rest => encode key ++ (encode value ++ encodeEntries rest)

end

end RelayClient.Pack.Value
