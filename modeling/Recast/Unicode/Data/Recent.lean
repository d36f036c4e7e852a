/-!
The code points that Unicode 17.0 made alphabetic or numeric, beyond those of the Unicode 16.0
tables, as hexadecimal ranges. The character predicates of addresses, host names and group names
follow Unicode 17.0, while the classes of patterns follow Unicode 16.0.
-/

namespace Recast.Unicode.Data

/-- The code points alphabetic in Unicode 17.0 but not in Unicode 16.0. -/
def recentAlphabetic : String := String.join [
  "88f c5c cdc a7ce-a7cf a7d2 a7d4 a7f1 10940-10959 10ec5-10ec7 10efa-10efb 11b60-11b67 ",
  "11db0-11ddb 16ea0-16eb8 16ebb-16ed3 16ff2-16ff6 187f8-187ff 18d09-18d1e 18d80-18df2 ",
  "1e6c0-1e6de 1e6e0-1e6f5 1e6fe-1e6ff 2b73a-2b73f 2cea2-2cead 323b0-33479"]

/-- The code points numeric (decimal digits, letter numbers, other numbers) in Unicode 17.0 but
not in Unicode 16.0. -/
def recentNumeric : String :=
  "11de0-11de9 16ff4-16ff6"

end Recast.Unicode.Data
