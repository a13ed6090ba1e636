import DoubleWord.Fault
import DoubleWord.Word
import DoubleWord.Power
import DoubleWord.U128.Basic
import DoubleWord.U128.Arith
import DoubleWord.U128.Bits
import DoubleWord.U128.Div
import DoubleWord.U128.Radix
import DoubleWord.Text.Ranges
import DoubleWord.Text.Printable
import DoubleWord.Text.GraphemeExtend
import DoubleWord.Text.Quoted
import DoubleWord.Text.Digits
import DoubleWord.Text.ParseError
import DoubleWord.IntType
import DoubleWord.Float.Precision
import DoubleWord.U128.Float
import DoubleWord.U128.Convert
import DoubleWord.Text.BitGroups
import DoubleWord.Text.Layout
import DoubleWord.U128.Format
import DoubleWord.Unsigned.Basic
import DoubleWord.Unsigned.Native
import DoubleWord.Unsigned.Wide
import DoubleWord.Unsigned.Algorithms
import DoubleWord.U128.Steps
import DoubleWord.Calc.Eval
import DoubleWord.Cli.Similarity
import DoubleWord.Cli.Grammar
import DoubleWord.Cli.Help
import DoubleWord.Cli.Failure
import DoubleWord.Cli.Parse
import DoubleWord.Log.Filter
import DoubleWord.Log.Event
import DoubleWord.Calc.Args
import DoubleWord.Calc.Run
import DoubleWord.Main
import DoubleWord.Proofs.Arith
import DoubleWord.Proofs.Bits
import DoubleWord.Proofs.Division
import DoubleWord.Proofs.Numeral
import DoubleWord.Proofs.Calculator
import DoubleWord.Proofs.WordOperands
import DoubleWord.Proofs.Wrapping
import DoubleWord.Proofs.Reading
import DoubleWord.Proofs.RestoringDivision
import DoubleWord.Proofs.Euclid
import DoubleWord.Proofs.PrefixReading
import DoubleWord.Proofs.FloatCast
import DoubleWord.Proofs.Power
import DoubleWord.Proofs.Factorial
import DoubleWord.Proofs.BitCounts
import DoubleWord.Proofs.Formatting
import DoubleWord.Proofs.MachineIntegers
import DoubleWord.Proofs.Order
import DoubleWord.Proofs.Positional
import DoubleWord.Proofs.BitGroups
