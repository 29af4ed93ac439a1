import LifeRom.Bank
import LifeRom.Rle.Printer
import LifeRom.Verilog.Reading
import LifeRom.Proofs.Grid
import LifeRom.Proofs.Layout.Drawing
import LifeRom.Proofs.Rle.Exactness
import LifeRom.Proofs.Rle.Declared
import LifeRom.Proofs.Rle.Grammar
import LifeRom.Proofs.Text.Lines
import LifeRom.Proofs.Verilog.Sections
import LifeRom.Proofs.Workers
import LifeRom.Proofs.Verilog.Identifier
import LifeRom.Proofs.Verilog.Entries
import LifeRom.Proofs.Verilog.Emission
import LifeRom.Proofs.Bank.Kept
import LifeRom.Proofs.Verilog.Composite
import LifeRom.Proofs.Bank.Answers
import LifeRom.Proofs.Rle.Written
import LifeRom.Proofs.Plaintext.Rows
import LifeRom.Proofs.Format
import LifeRom.Proofs.Plaintext.Drawing
import LifeRom.Proofs.Bisection
import LifeRom.Proofs.Verilog.Naming
import LifeRom.Proofs.Verilog.Table
import LifeRom.Proofs.Bank.Selection
import LifeRom.Proofs.Bank.Sharing
import LifeRom.Proofs.Verilog.Decoding
import LifeRom.Proofs.Verilog.Instances
import LifeRom.Proofs.Bank.Names
import LifeRom.Proofs.Layout.Overflow
import LifeRom.Proofs.Layout.Population
import LifeRom.Proofs.Faults
import LifeRom.Proofs.Rle.Numbers
import LifeRom.Proofs.Rle.Refusal
import LifeRom.Proofs.Rle.Reflow
import LifeRom.Proofs.Plaintext.Canonical
import LifeRom.Proofs.Plaintext.Refusal
import LifeRom.Proofs.Refusal
import LifeRom.Proofs.Source
import LifeRom.Proofs.Bank.Skipping
import LifeRom.Proofs.Verilog.Legality
import LifeRom.Proofs.Bank.Composing
import LifeRom.Proofs.Text.Endings
import LifeRom.Proofs.Bank.Reports
import LifeRom.Proofs.Verilog.Width
import LifeRom.Proofs.Layout.Bounds
import LifeRom.Proofs.Verilog.Reserved
